import Fostering.Text.Composed.Marks

/-!
# Joiners

Two characters without a shape of their own tell that their neighbours are joined, or that they are
not. A host name may have them only where they change what is seen: behind a sign that takes a vowel
away, and the second one also between letters that would be joined without it.
-/

namespace Fostering.Text

/-- How Unicode's letters join: `L` with the next one, `R` with the one before, `D` with both, `T`
are passed over, and `U` do not join. -/
def joiningTable : Stretches := .read
  ["U300 T71 U112 T8 U106 T2d U1 T1 U1 T2 U1 T2 U1 T9 U40 Tb U5 D1 U1 R4 D1 R1 D1 R1 D5 R4 Dd U1",
   "D7 R1 D2 T15 Ue D2 T1 R3 U5 Df R12 D26 R1 D2 R9 D1 R1 D1 R1 D2 R2 U1 R1 T8 U1 T6 U2 T2 U1 T4",
   "R2 Ua D3 U2 D1 U10 R1 T1 D3 R5 D4 R1 D9 R1 D1 R1 D1 R1 D2 R1 T1d R1 Db R3 Df R2 D4 R1 D1 R2 D3",
   "R2 D6 U26 Tb U19 D21 T9 U9 T1 U18 T4 U1 T9 U1 T3 U1 T7 U10 R1 D5 R2 D1 R1 Da R1 D1 R3 T5 U2 D1",
   "U1 D4 U1 R1 D1 R1a U3 D1 U2 D5 R1 U8 T9 Da R3 U1 R1 D2 R2 D6 R1 Df U1 T39 U37 T1 U1 T1 U4 T8",
   "U4 T1 U3 Tf U2 T2 U1d T1 U3a T1 U4 T6 U6 T1 U14 T4 U18 T5 U39 T2 U3 T1b U14 T2 U3 T1 Ub T2 U39",
   "T1 U4 T8 U4 T3 U12 T4 U14 T8 U3a T1 U2 T1 U1 T6 U6 Ta Ub T4 U1c T1 U3d T1 Uc T3 U30 T1 U3 T1",
   "U37 T1 U1 T3 U5 T12 Ua T4 U1b T1 U3a T1 U2 T1 U6 T1 U5 T9 Ud T4 U1a T2 U39 T2 U4 T5 U7 T1 U14",
   "T4 U1b T1 U48 T5 U3 T6 U59 T1 U2 Tb U8 T8 U62 T1 U2 T9 Ub T8 U48 T2 U1b T1 U1 T1 U1 T1 U37 Te",
   "U1 T5 U1 T2 U5 T31 U8 T1 U66 T4 U1 T6 U1 T2 U2 T2 U19 T2 U4 T3 U10 T4 Ud T1 U2 T2 U6 T1 Uf T1",
   "U2bf T3 U3b2 T3 U1d T2 U1e Te U12 Te U37 T7 U8 T1 U2 Tb U9 T3 U27 D1 U18 D60 U5 T2 D22 T1 D6",
   "U70 T3 U4 T2 U9 T1 U6 T7 Ud7 T2 U2 T3 U38 T1 U1 T9 U1 T1 U2 T8 U6 Td U30 T54 U30 T1 U1 T5 U1",
   "T1 U5 T1 U28 T9 Uc T2 U20 T4 U2 T2 U1 T3 U38 T1 U1 T2 U3 T1 U1 T3 U3a T8 U2 T5 U95 T3 U1 Td U1",
   "T7 U4 T1 U6 T1 U3 T2 Uc6 T41 U2cf T34 Ubeb T4 U8c T1 U60 T20 U22a T4 U6b T4 U75d2 T4 U1 Ta U20",
   "T2 U50 T2 U110 T1 U3 T1 U4 T1 U19 T2 U5 T4 U10 D32 L1 U51 Ta U12 T12 Ud T1 U26 T8 U19 Tb U2e",
   "T3 U30 T1 U2 T4 U2 T2 U27 T1 U43 T6 U2 T2 U2 Tb U3 T1 U8 T1 U2f T1 U33 T1 U1 T3 U2 T2 U5 T2 U1",
   "T1 U2a T2 U8 Tb Ue4 T1 U2 T1 U4 T3 U4f2e T94 U26e T25 U3b8 T83 U60 T1 U95 Ta U681 Tf U28 T8",
   "U80 D5 R1 U1 R1 U1 R2 U2 L1 R5 D4 L1 D5 R1 D3 R1 U2 R1 T6 D4 R1 U90 D1 R1 D1 R3 D3 R1 D2 R1 D1",
   "R2 D1 R8 U10 R4 D2 U151 L1 D21 R1 D1 Tc U39 T5 U13d T2 U4d T6 U30 D3 R1 D11 U1 Tb D3 R1 U1b D4",
   "R2 Dc T4 U2a D1 U1 D2 R3 U1 D1 R2 D2 R1 D2 U1 D1 R2 D1 U4 R1 D1 L15 U21 T1 U36 Tf U29 T1 U2 T2",
   "Ua T3 U31 T4 U2 T2 U7 Te U30 T3 U24 T5 U1 T9 U3d T1 Uc T2 U34 T9 Ua T4 U2 T1 U5f T3 U2 T1 U1",
   "T2 U6 T1 U2 T3f U5f T1 U3 Td U10 T2 U39 T2 U3 T1 U25 T1a U3b T7 Uc T1 U1 T1 U1 T1 Ue T1f U38",
   "T8 U2 T3 U1 T1 U17 T1 U54 T6 U1 T1 U4 T2 U1 T2 Uee T6 U4 T2 U1 T2 U1b T24 U33 T8 U2 T1 U1 T2",
   "U6a T1 U1 T1 U2 T6 U1 T1 U65 T3 U2 T4 U1 T9 Uff T9 U1 T2 U100 T2 U1 T1 U4 T1 U90 T8 U4 T1 U20",
   "Ta U28 T6 U2 T4 U8 T9 U1 T6 U2 T3 U2e Td U1 T2 Uc6 T1 U1 T3 U1 T1 Uc9 Te U1 T1 U52 T17 U1 T7",
   "U1 T2 U1 T4b U31 T15 U1 T9 U40 T3 U2 T1 U1 T1 U15b T2 Ub T2 U34 T8 U2 T1 U1 T1 U17 T56 U1490",
   "T1 U6 T19 U2cbe Tc U3 T3 U9c0 T5 U3b T7 U418 T1 U3f T4 U51 Tc U4cad T2 U1261 T50 U217 T3 U11",
   "T8 U2 T7 U1e T4 U94 T3 U7bb T37 U4 T32 U8 T1 Ue T1 U16 T465 U100 T100 U30 T7 U177 T12 U2c T4",
   "U1fc T4 Ufe T2 Uf3 T1 U2 T1 U7 T2 U5 T9 U1d2 T52 D22 Tc"]

/-- How a letter joins. -/
def joining (c : Char) : Char := joiningTable.letter 'U' c

/-- Keeps letters apart. -/
def nonJoiner : Char := Char.ofNat 0x200C

/-- Joins letters. -/
def joiner : Char := Char.ofNat 0x200D

/-- Whether the first letter that is not passed over joins in one of some ways. -/
def joinsAs (ways cs : List Char) : Bool :=
  ((cs.map joining).find? (· ≠ 'T')).any ways.contains

/-- Whether a joiner may stand behind the characters `before`, the nearest first. -/
def allowsJoiner (c : Char) (before after : List Char) : Bool :=
  before.head?.any isVirama
    || (c = nonJoiner && joinsAs ['L', 'D'] before && joinsAs ['R', 'D'] after)

/-- Whether every joiner in a text stands where it may, behind the characters `before`. -/
def keepsJoiners (before : List Char) : List Char → Bool
  | [] => true
  | c :: after =>
    ((c ≠ joiner && c ≠ nonJoiner) || allowsJoiner c before after) && keepsJoiners (c :: before) after

end Fostering.Text
