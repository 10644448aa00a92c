import HttpReactor.Octets
/-!
# Header maps

A header map holds at most one value per spelling of a name. Setting a name spelled exactly as an
existing one replaces that value where it stands; any other spelling is a new entry, so names that
differ only in ASCII case can sit side by side. Looking a name up, or erasing it, ignores ASCII case.
On the wire the entries go out sorted by name, byte by byte.

A header map is a hash map, and its entries are kept in the order the map visits them. That order
is its hasher's (`HashOrder`): the hasher's keys are drawn afresh for every map, so two maps with the
same entries may visit them in two orders. A lookup answers with the first entry it visits whose
name matches, so for a name spelled two ways with two values the answer is the hasher's choice.

Main statements: after `insert` the map answers the new value for that spelling (`find_insert`),
and `erase` leaves no entry of the name (`get?_erase`).
-/

namespace HttpReactor

/-- Replacing the entry of key `k` in an association list changes what a lookup of any key finds
by that replacement only. -/
theorem find?_map_replace {α β : Type} [BEq α] [LawfulBEq α] (l : List (α × β)) (k k' : α) (v : β) :
    (l.map fun p => if p.1 == k then (k, v) else p).find? (·.1 == k') =
      (l.find? (·.1 == k')).map fun p => if p.1 == k then (k, v) else p := by
  -- the replacement keeps every key, so the lookup stops at the same entry
  have hpred : ((·.1 == k') ∘ fun p : α × β => if p.1 == k then (k, v) else p) = (·.1 == k') := by
    funext p
    by_cases hp : p.1 = k
    · simp [hp]
    · simp [hp]
  rw [List.find?_map, hpred]

/-- The order in which a hash map visits its entries, as its hasher decides it: some order of the
entries, each visited once. -/
structure HashOrder where
  /-- The entries in the order the map visits them, from the entries in the order they were set. -/
  arrange : List (String × String) → List (String × String)
  /-- The map visits each of its entries once. -/
  perm : ∀ l, (arrange l).Perm l

/-- The hasher that visits the entries in the order they were set. -/
def HashOrder.insertion : HashOrder := ⟨id, List.Perm.refl⟩

/-- A header map: names with their values, one entry per spelling of a name. -/
structure HeaderMap where
  /-- The entries, in the order the map visits them. -/
  entries : List (String × String)
  deriving DecidableEq, Repr

namespace HeaderMap

/-- The map without entries. -/
def empty : HeaderMap := ⟨[]⟩

/-- Two names are the same header name when they agree up to ASCII case. -/
def sameName (a b : String) : Bool := Octets.eqIgnoreCase (Octets.ofString a) (Octets.ofString b)

/-- Sets the value of a name spelled exactly so: an entry of that spelling is replaced in place,
otherwise the entry is added at the end. -/
def insert (m : HeaderMap) (name value : String) : HeaderMap :=
  if m.entries.any (·.1 == name) then
    ⟨m.entries.map fun e => if e.1 == name then (name, value) else e⟩
  else ⟨m.entries ++ [(name, value)]⟩

/-- The map holding the given entries, set one after another, so a later spelling wins. -/
def ofList (l : List (String × String)) : HeaderMap := l.foldl (fun m e => m.insert e.1 e.2) empty

/-- The value of the first entry the map visits whose name is `name` up to ASCII case. -/
def get? (m : HeaderMap) (name : String) : Option String :=
  (m.entries.find? fun e => sameName e.1 name).map (·.2)

/-- Some entry's name is `name` up to ASCII case. -/
def contains (m : HeaderMap) (name : String) : Bool := m.entries.any fun e => sameName e.1 name

/-- The map without any entry whose name is `name` up to ASCII case. -/
def erase (m : HeaderMap) (name : String) : HeaderMap := ⟨m.entries.filter fun e => !sameName e.1 name⟩

/-- The entries sorted by name, then by value, comparing the UTF-8 bytes. -/
def sorted (m : HeaderMap) : List (String × String) :=
  m.entries.mergeSort fun a b => a.1 < b.1 || (a.1 == b.1 && a.2 ≤ b.2)

theorem find_insert (m : HeaderMap) (name value : String) :
    (m.insert name value).entries.find? (·.1 == name) = some (name, value) := by
  unfold insert
  split
  · -- the entry of that spelling is the first the lookup finds, and it is replaced
    rename_i hany
    obtain ⟨p, hp⟩ : ∃ p, m.entries.find? (·.1 == name) = some p :=
      Option.isSome_iff_exists.1 (List.find?_isSome.2 (by simpa using hany))
    have hk : p.1 = name := by simpa using List.find?_some hp
    rw [find?_map_replace, hp]
    simp [hk]
  · rename_i h
    rw [List.find?_append]
    have : m.entries.find? (·.1 == name) = none := by
      rw [List.find?_eq_none]
      intro e he
      have := h
      simp only [List.any_eq_true, beq_iff_eq, not_exists, not_and] at this
      simpa using this e he
    simp [this]

theorem get?_erase (m : HeaderMap) (name : String) : (m.erase name).get? name = none := by
  simp only [get?, erase, Option.map_eq_none_iff, List.find?_eq_none, List.mem_filter,
    Bool.not_eq_true', and_imp]
  intro e _ h
  simp [h]

end HeaderMap

end HttpReactor
