import HttpReactor.Text.Canonical
import HttpReactor.Domain.Bidi
/-!
# Labels of a domain name

A label of a domain name, as Unicode text, must not begin with a combining mark (general category
M, `markText`), since the mark would attach to the dot before it. The zero-width non-joiner and
joiner, which change how letters around them are shaped, may stand only where they do so: either
right after a virama (canonical combining class 9), or, for the non-joiner alone, between a letter
that joins to its left side and one that joins to its right side, with only transparent
characters around it (`joinerFits`). The joining types come from Unicode 17.0 (`joiningText`):
`L` and `R` join on one side, `D` on both, `T` lets joining pass through, `C` joins by causing,
and `U` does not join.
-/

namespace HttpReactor

namespace Domain

/-- Whether each character that may stand in a domain name is a mark (`M`) or not (`N`). -/
def markText : String :=
  " ".intercalate
    ["0=N 300=M 371=N 483=M 48b=N 591=M 5be=N 5bf=M 5c0=N 5c1=M 5c3=N 5c4=M 5c6=N 5c7=M 5c8=N",
     "610=M 61b=N 64b=M 660=N 670=M 671=N 6d6=M 6de=N 6df=M 6e5=N 6e7=M 6e9=N 6ea=M 6ee=N 711=M",
     "712=N 730=M 74b=N 7a6=M 7b1=N 7eb=M 7f4=N 7fd=M 7fe=N 816=M 81a=N 81b=M 824=N 825=M 828=N",
     "829=M 82e=N 859=M 85c=N 897=M 8a0=N 8ca=M 904=N 93a=M 93d=N 93e=M 950=N 951=M 960=N 962=M",
     "964=N 981=M 984=N 9bc=M 9bd=N 9be=M 9c5=N 9c7=M 9c9=N 9cb=M 9ce=N 9d7=M 9d8=N 9e2=M 9e4=N",
     "9fe=M 9ff=N a01=M a04=N a3c=M a3d=N a3e=M a43=N a47=M a49=N a4b=M a4e=N a51=M a52=N a70=M",
     "a72=N a75=M a76=N a81=M a84=N abc=M abd=N abe=M ac6=N ac7=M aca=N acb=M ace=N ae2=M ae4=N",
     "afa=M b00=N b01=M b04=N b3c=M b3d=N b3e=M b45=N b47=M b49=N b4b=M b4e=N b55=M b58=N b62=M",
     "b64=N b82=M b83=N bbe=M bc3=N bc6=M bc9=N bca=M bce=N bd7=M bd8=N c00=M c05=N c3c=M c3d=N",
     "c3e=M c45=N c46=M c49=N c4a=M c4e=N c55=M c57=N c62=M c64=N c81=M c84=N cbc=M cbd=N cbe=M",
     "cc5=N cc6=M cc9=N cca=M cce=N cd5=M cd7=N ce2=M ce4=N cf3=M cf4=N d00=M d04=N d3b=M d3d=N",
     "d3e=M d45=N d46=M d49=N d4a=M d4e=N d57=M d58=N d62=M d64=N d81=M d84=N dca=M dcb=N dcf=M",
     "dd5=N dd6=M dd7=N dd8=M de0=N df2=M df4=N e31=M e32=N e34=M e3b=N e47=M e4f=N eb1=M eb2=N",
     "eb4=M ebd=N ec8=M ecf=N f18=M f1a=N f35=M f36=N f37=M f38=N f39=M f3a=N f3e=M f40=N f71=M",
     "f85=N f86=M f88=N f8d=M f98=N f99=M fbd=N fc6=M fc7=N 102b=M 103f=N 1056=M 105a=N 105e=M",
     "1061=N 1062=M 1065=N 1067=M 106e=N 1071=M 1075=N 1082=M 108e=N 108f=M 1090=N 109a=M 109e=N",
     "135d=M 1360=N 1712=M 1716=N 1732=M 1735=N 1752=M 1754=N 1772=M 1774=N 17b6=M 17d4=N 17dd=M",
     "17de=N 1885=M 1887=N 18a9=M 18aa=N 1920=M 192c=N 1930=M 193c=N 1a17=M 1a1c=N 1a55=M 1a5f=N",
     "1a60=M 1a7d=N 1a7f=M 1a80=N 1ab0=M 1ade=N 1ae0=M 1aec=N 1b00=M 1b05=N 1b34=M 1b45=N 1b6b=M",
     "1b74=N 1b80=M 1b83=N 1ba1=M 1bae=N 1be6=M 1bf4=N 1c24=M 1c38=N 1cd0=M 1cd3=N 1cd4=M 1ce9=N",
     "1ced=M 1cee=N 1cf4=M 1cf5=N 1cf7=M 1cfa=N 1dc0=M 1e01=N 20d0=M 20f1=N 2cef=M 2cf3=N 2d7f=M",
     "2d80=N 2de0=M 2e00=N 302a=M 3030=N 3099=M 309d=N a66f=M a673=N a674=M a67e=N a69e=M a6a0=N",
     "a6f0=M a6f2=N a802=M a803=N a806=M a807=N a80b=M a80c=N a823=M a828=N a82c=M a82d=N a880=M",
     "a882=N a8b4=M a8c6=N a8e0=M a8f2=N a8ff=M a900=N a926=M a92e=N a947=M a954=N a980=M a984=N",
     "a9b3=M a9c1=N a9e5=M a9e6=N aa29=M aa37=N aa43=M aa44=N aa4c=M aa4e=N aa7b=M aa7e=N aab0=M",
     "aab1=N aab2=M aab5=N aab7=M aab9=N aabe=M aac0=N aac1=M aac2=N aaeb=M aaf0=N aaf5=M aaf7=N",
     "abe3=M abeb=N abec=M abee=N fb1e=M fb37=N fe20=M fe45=N 101fd=M 101fe=N 102e0=M 102e1=N",
     "10376=M 1037b=N 10a01=M 10a04=N 10a05=M 10a07=N 10a0c=M 10a10=N 10a38=M 10a3b=N 10a3f=M",
     "10a40=N 10ae5=M 10ae7=N 10d24=M 10d28=N 10d69=M 10d6e=N 10eab=M 10ead=N 10efa=M 10f00=N",
     "10f46=M 10f51=N 10f82=M 10f86=N 11000=M 11003=N 11038=M 11047=N 11070=M 11071=N 11073=M",
     "11075=N 1107f=M 11083=N 110b0=M 110bb=N 110c2=M 110c3=N 11100=M 11103=N 11127=M 11135=N",
     "11145=M 11147=N 11173=M 11174=N 11180=M 11183=N 111b3=M 111c1=N 111c9=M 111cd=N 111ce=M",
     "111d0=N 1122c=M 11238=N 1123e=M 1123f=N 11241=M 11242=N 112df=M 112eb=N 11300=M 11304=N",
     "1133b=M 1133d=N 1133e=M 11345=N 11347=M 11349=N 1134b=M 1134e=N 11357=M 11358=N 11362=M",
     "11364=N 11366=M 1136d=N 11370=M 11375=N 113b8=M 113c1=N 113c2=M 113c3=N 113c5=M 113c6=N",
     "113c7=M 113cb=N 113cc=M 113d1=N 113d2=M 113d3=N 113e1=M 113e3=N 11435=M 11447=N 1145e=M",
     "1145f=N 114b0=M 114c4=N 115af=M 115b6=N 115b8=M 115c1=N 115dc=M 115de=N 11630=M 11641=N",
     "116ab=M 116b8=N 1171d=M 1172c=N 1182c=M 1183b=N 11930=M 11936=N 11937=M 11939=N 1193b=M",
     "1193f=N 11940=M 11941=N 11942=M 11944=N 119d1=M 119d8=N 119da=M 119e1=N 119e4=M 119e5=N",
     "11a01=M 11a0b=N 11a33=M 11a3a=N 11a3b=M 11a3f=N 11a47=M 11a48=N 11a51=M 11a5c=N 11a8a=M",
     "11a9a=N 11b60=M 11b68=N 11c2f=M 11c37=N 11c38=M 11c40=N 11c92=M 11ca8=N 11ca9=M 11cb7=N",
     "11d31=M 11d37=N 11d3a=M 11d3b=N 11d3c=M 11d3e=N 11d3f=M 11d46=N 11d47=M 11d48=N 11d8a=M",
     "11d8f=N 11d90=M 11d92=N 11d93=M 11d98=N 11ef3=M 11ef7=N 11f00=M 11f02=N 11f03=M 11f04=N",
     "11f34=M 11f3b=N 11f3e=M 11f43=N 11f5a=M 11f5b=N 13440=M 13441=N 13447=M 13456=N 1611e=M",
     "16130=N 16af0=M 16af5=N 16b30=M 16b37=N 16f4f=M 16f50=N 16f51=M 16f88=N 16f8f=M 16f93=N",
     "16fe4=M 16fe5=N 16ff0=M 16ff2=N 1bc9d=M 1bc9f=N 1cf00=M 1cf2e=N 1cf30=M 1cf47=N 1d165=M",
     "1d16a=N 1d16d=M 1d183=N 1d185=M 1d18c=N 1d1aa=M 1d1ae=N 1d242=M 1d245=N 1da00=M 1da37=N",
     "1da3b=M 1da6d=N 1da75=M 1da76=N 1da84=M 1da85=N 1da9b=M 1daa0=N 1daa1=M 1dab0=N 1e000=M",
     "1e007=N 1e008=M 1e019=N 1e01b=M 1e022=N 1e023=M 1e025=N 1e026=M 1e02b=N 1e08f=M 1e090=N",
     "1e130=M 1e137=N 1e2ae=M 1e2af=N 1e2ec=M 1e2f0=N 1e4ec=M 1e4f0=N 1e5ee=M 1e5f0=N 1e6e3=M",
     "1e6e4=N 1e6e6=M 1e6e7=N 1e6ee=M 1e6f0=N 1e6f5=M 1e6f6=N 1e8d0=M 1e8d7=N 1e944=M 1e94b=N"]

/-- The marks, read. -/
def markTable : Text.CodeTable Bool :=
  Text.CodeTable.read (fun s => if s = "M" then some true else if s = "N" then some false else none)
    markText

/-- The character is a combining mark. -/
def isMark (c : Char) : Bool := markTable.get false c.toNat

/-- How a character joins to its neighbours. -/
inductive JoiningType where
  /-- Joins to the character on its left side. -/
  | left
  /-- Joins to the character on its right side. -/
  | right
  /-- Joins on both sides. -/
  | dual
  /-- Lets joining pass through. -/
  | transparent
  /-- Causes its neighbours to join. -/
  | causing
  /-- Does not join. -/
  | nonJoining
  deriving DecidableEq, Repr, Inhabited

/-- Reads the letter of a joining type. -/
def JoiningType.read (s : String) : Option JoiningType :=
  match s with
  | "L" => some .left
  | "R" => some .right
  | "D" => some .dual
  | "T" => some .transparent
  | "C" => some .causing
  | "U" => some .nonJoining
  | _ => none

/-- The joining type of each character that may stand in a domain name. -/
def joiningText : String :=
  " ".intercalate
    ["0=U 300=T 371=U 483=T 48b=U 591=T 5be=U 5bf=T 5c0=U 5c1=T 5c3=U 5c4=T 5c6=U 5c7=T 5c8=U",
     "610=T 61b=U 620=D 621=U 622=R 626=D 627=R 628=D 629=R 62a=D 62f=R 633=D 640=C 641=D 648=R",
     "649=D 64b=T 660=U 66e=D 670=T 671=R 674=U 679=D 688=R 69a=D 6c0=R 6c1=D 6c3=R 6cc=D 6cd=R",
     "6ce=D 6cf=R 6d0=D 6d2=R 6d4=U 6d5=R 6d6=T 6de=U 6df=T 6e5=U 6e7=T 6e9=U 6ea=T 6ee=R 6f0=U",
     "6fa=D 6fd=U 6ff=D 700=U 710=R 711=T 712=D 715=R 71a=D 71e=R 71f=D 728=R 729=D 72a=R 72b=D",
     "72c=R 72d=D 72f=R 730=T 74b=U 74d=R 74e=D 759=R 75c=D 76b=R 76d=D 771=R 772=D 773=R 775=D",
     "778=R 77a=D 780=U 7a6=T 7b1=U 7ca=D 7eb=T 7f4=U 7fa=C 7fb=U 7fd=T 7fe=U 816=T 81a=U 81b=T",
     "824=U 825=T 828=U 829=T 82e=U 840=R 841=D 846=R 848=D 849=R 84a=D 854=R 855=D 856=R 859=T",
     "85c=U 860=D 861=U 862=D 866=U 867=R 868=D 869=R 86b=U 870=R 883=C 886=D 887=U 889=D 88e=R",
     "88f=D 892=U 897=T 8a0=D 8aa=R 8ad=U 8ae=R 8af=D 8b1=R 8b3=D 8b9=R 8ba=D 8c9=U 8ca=T 903=U",
     "93a=T 93b=U 93c=T 93d=U 941=T 949=U 94d=T 94e=U 951=T 960=U 962=T 964=U 981=T 982=U 9bc=T",
     "9bd=U 9c1=T 9c5=U 9cd=T 9ce=U 9e2=T 9e4=U 9fe=T 9ff=U a01=T a03=U a3c=T a3d=U a41=T a43=U",
     "a47=T a49=U a4b=T a4e=U a51=T a52=U a70=T a72=U a75=T a76=U a81=T a83=U abc=T abd=U ac1=T",
     "ac6=U ac7=T ac9=U acd=T ace=U ae2=T ae4=U afa=T b00=U b01=T b02=U b3c=T b3d=U b3f=T b40=U",
     "b41=T b45=U b4d=T b4e=U b55=T b57=U b62=T b64=U b82=T b83=U bc0=T bc1=U bcd=T bce=U c00=T",
     "c01=U c04=T c05=U c3c=T c3d=U c3e=T c41=U c46=T c49=U c4a=T c4e=U c55=T c57=U c62=T c64=U",
     "c81=T c82=U cbc=T cbd=U cbf=T cc0=U cc6=T cc7=U ccc=T cce=U ce2=T ce4=U d00=T d02=U d3b=T",
     "d3d=U d41=T d45=U d4d=T d4e=U d62=T d64=U d81=T d82=U dca=T dcb=U dd2=T dd5=U dd6=T dd7=U",
     "e31=T e32=U e34=T e3b=U e47=T e4f=U eb1=T eb2=U eb4=T ebd=U ec8=T ecf=U f18=T f1a=U f35=T",
     "f36=U f37=T f38=U f39=T f3a=U f71=T f7f=U f80=T f85=U f86=T f88=U f8d=T f98=U f99=T fbd=U",
     "fc6=T fc7=U 102d=T 1031=U 1032=T 1038=U 1039=T 103b=U 103d=T 103f=U 1058=T 105a=U 105e=T",
     "1061=U 1071=T 1075=U 1082=T 1083=U 1085=T 1087=U 108d=T 108e=U 109d=T 109e=U 135d=T 1360=U",
     "1712=T 1715=U 1732=T 1734=U 1752=T 1754=U 1772=T 1774=U 17b7=T 17be=U 17c6=T 17c7=U 17c9=T",
     "17d4=U 17dd=T 17de=U 1807=D 1808=U 180a=C 1810=U 1820=D 1879=U 1885=T 1887=D 18a9=T 18aa=D",
     "18ab=U 1920=T 1923=U 1927=T 1929=U 1932=T 1933=U 1939=T 193c=U 1a17=T 1a19=U 1a1b=T 1a1c=U",
     "1a56=T 1a57=U 1a58=T 1a5f=U 1a60=T 1a61=U 1a62=T 1a63=U 1a65=T 1a6d=U 1a73=T 1a7d=U 1a7f=T",
     "1a80=U 1ab0=T 1ade=U 1ae0=T 1aec=U 1b00=T 1b04=U 1b34=T 1b35=U 1b36=T 1b3b=U 1b3c=T 1b3d=U",
     "1b42=T 1b43=U 1b6b=T 1b74=U 1b80=T 1b82=U 1ba2=T 1ba6=U 1ba8=T 1baa=U 1bab=T 1bae=U 1be6=T",
     "1be7=U 1be8=T 1bea=U 1bed=T 1bee=U 1bef=T 1bf2=U 1c2c=T 1c34=U 1c36=T 1c38=U 1cd0=T 1cd3=U",
     "1cd4=T 1ce1=U 1ce2=T 1ce9=U 1ced=T 1cee=U 1cf4=T 1cf5=U 1cf8=T 1cfa=U 1dc0=T 1e01=U 200d=C",
     "2010=U 20d0=T 20f1=U 2cef=T 2cf3=U 2d7f=T 2d80=U 2de0=T 2e00=U 302a=T 302e=U 3099=T 309d=U",
     "a66f=T a673=U a674=T a67e=U a69e=T a6a0=U a6f0=T a6f2=U a802=T a803=U a806=T a807=U a80b=T",
     "a80c=U a825=T a827=U a82c=T a82d=U a840=D a872=L a873=U a8c4=T a8c6=U a8e0=T a8f2=U a8ff=T",
     "a900=U a926=T a92e=U a947=T a952=U a980=T a983=U a9b3=T a9b4=U a9b6=T a9ba=U a9bc=T a9be=U",
     "a9e5=T a9e6=U aa29=T aa2f=U aa31=T aa33=U aa35=T aa37=U aa43=T aa44=U aa4c=T aa4d=U aa7c=T",
     "aa7d=U aab0=T aab1=U aab2=T aab5=U aab7=T aab9=U aabe=T aac0=U aac1=T aac2=U aaec=T aaee=U",
     "aaf6=T aaf7=U abe5=T abe6=U abe8=T abe9=U abed=T abee=U fb1e=T fb37=U fe20=T fe45=U 101fd=T",
     "101fe=U 102e0=T 102e1=U 10376=T 1037b=U 10a01=T 10a04=U 10a05=T 10a07=U 10a0c=T 10a10=U",
     "10a38=T 10a3b=U 10a3f=T 10a40=U 10ac0=D 10ac5=R 10ac6=U 10ac7=R 10ac8=U 10ac9=R 10acb=U",
     "10acd=L 10ace=R 10ad3=D 10ad7=L 10ad8=D 10add=R 10ade=D 10ae1=R 10ae2=U 10ae4=R 10ae5=T",
     "10ae7=U 10aeb=D 10aef=R 10af0=U 10b80=D 10b81=R 10b82=D 10b83=R 10b86=D 10b89=R 10b8a=D",
     "10b8c=R 10b8d=D 10b8e=R 10b90=D 10b91=R 10b92=U 10ba9=R 10bad=D 10baf=U 10d00=L 10d01=D",
     "10d22=R 10d23=D 10d24=T 10d28=U 10d69=T 10d6e=U 10eab=T 10ead=U 10ec2=R 10ec3=D 10ec5=U",
     "10ec6=D 10ec8=U 10efa=T 10f00=U 10f30=D 10f33=R 10f34=D 10f45=U 10f46=T 10f51=D 10f54=R",
     "10f55=U 10f70=D 10f74=R 10f76=D 10f82=T 10f86=U 10fb0=D 10fb1=U 10fb2=D 10fb4=R 10fb7=U",
     "10fb8=D 10fb9=R 10fbb=D 10fbd=R 10fbe=D 10fc0=U 10fc1=D 10fc2=R 10fc4=D 10fc5=U 10fc9=R",
     "10fca=D 10fcb=L 10fcc=U 11001=T 11002=U 11038=T 11047=U 11070=T 11071=U 11073=T 11075=U",
     "1107f=T 11082=U 110b3=T 110b7=U 110b9=T 110bb=U 110c2=T 110c3=U 11100=T 11103=U 11127=T",
     "1112c=U 1112d=T 11135=U 11173=T 11174=U 11180=T 11182=U 111b6=T 111bf=U 111c9=T 111cd=U",
     "111cf=T 111d0=U 1122f=T 11232=U 11234=T 11235=U 11236=T 11238=U 1123e=T 1123f=U 11241=T",
     "11242=U 112df=T 112e0=U 112e3=T 112eb=U 11300=T 11302=U 1133b=T 1133d=U 11340=T 11341=U",
     "11366=T 1136d=U 11370=T 11375=U 113bb=T 113c1=U 113ce=T 113cf=U 113d0=T 113d1=U 113d2=T",
     "113d3=U 113e1=T 113e3=U 11438=T 11440=U 11442=T 11445=U 11446=T 11447=U 1145e=T 1145f=U",
     "114b3=T 114b9=U 114ba=T 114bb=U 114bf=T 114c1=U 114c2=T 114c4=U 115b2=T 115b6=U 115bc=T",
     "115be=U 115bf=T 115c1=U 115dc=T 115de=U 11633=T 1163b=U 1163d=T 1163e=U 1163f=T 11641=U",
     "116ab=T 116ac=U 116ad=T 116ae=U 116b0=T 116b6=U 116b7=T 116b8=U 1171d=T 1171e=U 1171f=T",
     "11720=U 11722=T 11726=U 11727=T 1172c=U 1182f=T 11838=U 11839=T 1183b=U 1193b=T 1193d=U",
     "1193e=T 1193f=U 11943=T 11944=U 119d4=T 119d8=U 119da=T 119dc=U 119e0=T 119e1=U 11a01=T",
     "11a0b=U 11a33=T 11a39=U 11a3b=T 11a3f=U 11a47=T 11a48=U 11a51=T 11a57=U 11a59=T 11a5c=U",
     "11a8a=T 11a97=U 11a98=T 11a9a=U 11b60=T 11b61=U 11b62=T 11b65=U 11b66=T 11b67=U 11c30=T",
     "11c37=U 11c38=T 11c3e=U 11c3f=T 11c40=U 11c92=T 11ca8=U 11caa=T 11cb1=U 11cb2=T 11cb4=U",
     "11cb5=T 11cb7=U 11d31=T 11d37=U 11d3a=T 11d3b=U 11d3c=T 11d3e=U 11d3f=T 11d46=U 11d47=T",
     "11d48=U 11d90=T 11d92=U 11d95=T 11d96=U 11d97=T 11d98=U 11ef3=T 11ef5=U 11f00=T 11f02=U",
     "11f36=T 11f3b=U 11f40=T 11f41=U 11f42=T 11f43=U 11f5a=T 11f5b=U 13440=T 13441=U 13447=T",
     "13456=U 1611e=T 1612a=U 1612d=T 16130=U 16af0=T 16af5=U 16b30=T 16b37=U 16f4f=T 16f50=U",
     "16f8f=T 16f93=U 16fe4=T 16fe5=U 1bc9d=T 1bc9f=U 1cf00=T 1cf2e=U 1cf30=T 1cf47=U 1d167=T",
     "1d16a=U 1d17b=T 1d183=U 1d185=T 1d18c=U 1d1aa=T 1d1ae=U 1d242=T 1d245=U 1da00=T 1da37=U",
     "1da3b=T 1da6d=U 1da75=T 1da76=U 1da84=T 1da85=U 1da9b=T 1daa0=U 1daa1=T 1dab0=U 1e000=T",
     "1e007=U 1e008=T 1e019=U 1e01b=T 1e022=U 1e023=T 1e025=U 1e026=T 1e02b=U 1e08f=T 1e090=U",
     "1e130=T 1e137=U 1e2ae=T 1e2af=U 1e2ec=T 1e2f0=U 1e4ec=T 1e4f0=U 1e5ee=T 1e5f0=U 1e6e3=T",
     "1e6e4=U 1e6e6=T 1e6e7=U 1e6ee=T 1e6f0=U 1e6f5=T 1e6f6=U 1e8d0=T 1e8d7=U 1e922=D 1e944=T",
     "1e94c=U"]

/-- The joining types, read. -/
def joiningTable : Text.CodeTable JoiningType := Text.CodeTable.read JoiningType.read joiningText

/-- The joining type of `c`. -/
def joiningType (c : Char) : JoiningType := joiningTable.get .nonJoining c.toNat

/-- The zero-width non-joiner. -/
def nonJoiner : Char := '\u200C'

/-- The zero-width joiner. -/
def joiner : Char := '\u200D'

/-- The character is a virama: it has canonical combining class 9. -/
def isVirama (c : Char) : Bool := Text.combiningClass c.toNat = 9

/-- Past the transparent characters, the next character joins towards the joiner: its joining
type is one of `toward`. -/
def joinsToward (toward : List JoiningType) (cs : List Char) : Bool :=
  match (cs.dropWhile fun c => joiningType c = .transparent).head? with
  | some c => toward.contains (joiningType c)
  | none => false

/-- A joiner `c`, with `before` the characters before it nearest first and `after` those after
it, stands where it may. -/
def joinerFits (before : List Char) (c : Char) (after : List Char) : Bool :=
  match before with
  | [] => false
  | b :: _ =>
    isVirama b ||
      (c = nonJoiner && joinsToward [.left, .dual] before && joinsToward [.right, .dual] after)

/-- Every joiner of the label stands where it may; `before` holds the characters already passed,
nearest first. -/
def joinersFit (before : List Char) : List Char → Bool
  | [] => true
  | c :: after =>
    (!(c = nonJoiner || c = joiner) || joinerFits before c after) && joinersFit (c :: before) after

/-- The label does not begin with a combining mark, and its joiners stand where they may. -/
def isWellFormedLabel (label : List Char) : Bool :=
  !(label.head?.map isMark).getD false && joinersFit [] label

end Domain

end HttpReactor
