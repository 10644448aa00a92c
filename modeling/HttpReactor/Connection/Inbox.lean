/-!
# Inboxes

An inbox holds the octets received on a connection that no request has consumed yet. Received
octets are appended at the back; a served request is consumed from the front, and consuming more
than is held empties the inbox.

Main statements: appending then reading gives the old contents followed by the new octets
(`contents_append`), and consuming drops exactly the front (`contents_consume`).
-/

namespace HttpReactor

/-- The unconsumed octets of a connection. -/
structure Inbox where
  /-- The octets held, oldest first. -/
  contents : List UInt8
  deriving DecidableEq, Repr

namespace Inbox

/-- The inbox that holds nothing. -/
def empty : Inbox := ⟨[]⟩

/-- Appends received octets and gives the whole contents. -/
def append (i : Inbox) (input : List UInt8) : Inbox := ⟨i.contents ++ input⟩

/-- Consumes `n` octets from the front; consuming at least everything empties the inbox. -/
def consume (i : Inbox) (n : Nat) : Inbox := if i.contents.length ≤ n then empty else ⟨i.contents.drop n⟩

/-- Nothing is held. -/
def isEmpty (i : Inbox) : Bool := i.contents.isEmpty

@[simp] theorem contents_append (i : Inbox) (input : List UInt8) :
    (i.append input).contents = i.contents ++ input := rfl

@[simp] theorem contents_consume (i : Inbox) (n : Nat) : (i.consume n).contents = i.contents.drop n := by
  unfold consume
  split
  · rename_i h
    simp [empty, List.drop_eq_nil_of_le h]
  · rfl

end Inbox

end HttpReactor
