import Fostering.Text.Stretches

/-!
# Directions of writing

Some scripts are written from right to left. A host name with characters of such a script must not
mix the directions inside a label, so that it looks the same to every reader: every label of it has
to keep one of two rules, according to its first character.
-/

namespace Fostering.Text

/-- Unicode's classes of direction, as far as the rules tell them apart: `L` goes from left to
right, `R` from right to left, `E` and `N` are digits, `M` are marks that go with the character
before them, and `O` is everything else. -/
def directionTable : Stretches := .read
  ["O30 Ea O27 L1a O64 L18 O1 L1c1 O2 L7 Oe L2 O1c L1 O11 M71 L4 O2 L7f O2 L8b M8 Lff O7 M2d R1 M1",
   "R1 M2 R1 M2 R1 M9 R36 O2 R1 O2 R1 O1 R1 O2 Mb R30 M15 Na O1 N2 R3 M1 R65 M8 O1 M6 R2 M2 O1 M4",
   "R2 Ea R17 M1 R1e M1d R59 Mb R3a M9 R2 O4 R3 M1 R18 M4 R1 M9 R1 M3 R1 M7 R29 M5 R39 M9 R2a M39",
   "L37 M1 L1 M1 L4 M8 L4 M1 L3 Mf L2 M2 L1d M1 L3a M1 L4 M6 L6 M1 L14 M4 Lc O2 L7 O1 L2 M5 L39 M2",
   "L3 M1b L14 M2 L3 M1 Lb M2 L39 M1 L4 M8 L4 M3 L12 M4 Lb O8 L1 M8 L3a M1 L2 M1 L1 M6 L6 Ma Lb M4",
   "L1c M1 L3d M1 Lc M3 L23 Od M1 L3 M1 L37 M1 L1 M3 L5 M12 La M4 L12 O7 L2 M1 L3a M1 Lf M9 Ld M4",
   "L1a M2 L39 M2 L4 M5 L7 M1 L14 M4 L1b M1 L48 M5 L3 M6 L59 M1 L2 Mb O1 L7 M8 L62 M1 L2 M9 Lb M8",
   "L48 M2 L1b M1 L1 M1 L1 M1 O4 L33 Me L1 M5 L1 M2 L5 M31 L8 M1 L66 M4 L1 M6 L1 M2 L2 M2 L19 M2",
   "L4 M3 L10 M4 Ld M1 L2 M2 L6 M1 Lf M1 L2bf M3 L30 O10 L60 O1 L29a O5 L72 M3 L1d M2 L1e Me L12",
   "Me L37 M7 L8 M1 L2 Mb L7 O1 L1 M3 L10 O20 L75 M2 L22 M1 L76 M3 L4 M2 L9 M1 L6 M7 O6 L98 O22",
   "L17 M2 L2 M3 L38 M1 L1 M9 L1 M1 L2 M8 L6 Md L30 M54 L30 M1 L1 M5 L1 M1 L5 M1 Lb O2 L1b M9 Lb",
   "O1 M2 L20 M4 L2 M2 L1 M3 L38 M1 L1 M2 L3 M1 L1 M3 L3a M8 L2 M5 L95 M3 L1 Md L1 M7 L4 M1 L6 M1",
   "L3 M2 Lc6 M41 L20b Oc4 M34 O4a L3c O1ac L45 O1a L1 O316 L1 O153 L100 O330 Lb5 O7 L3 M4 L6 O7",
   "L7f M1 L60 M20 O205 L3 O19 L9 M4 L2 O1 L6 O4 L2 O4 L58 M4 L3 O1 L5a O1 Lc4 O30 L1bd0 O40 L5690",
   "O40 L13d O3 L5f M4 O1 Ma O3 L1d M2 L50 M2 Le O23 L65 O1 L79 M1 L3 M1 L4 M1 L19 M2 L1 O4 M4 L8",
   "O8 L34 Oc L44 Ma L12 M12 Ld M1 L26 M8 L19 Mb L2e M3 L30 M1 L2 M4 L2 M2 L27 M1 L43 M6 L2 M2 L2",
   "Mb L3 M1 L8 M1 L2f M1 L33 M1 L1 M3 L2 M2 L5 M2 L1 M1 L2a M2 L8 Mb L69 O56 L25 M1 L2 M1 L4 M3",
   "L4f2e M94 R18c O52 R3f O51 M25 O2e R18d L101 O1 L3e O4d L3 O40 L2d M83 L60 M1 E1f L76 Ma L480",
   "R11f O1 Re1 Mf R28 M8 Ra5 M6 R4e O7 R1e4 Mc N10 R29 M5 Rf2 N20 R2b M2 R4d M6 R46 Mb R31 M4 R7a",
   "L1 M1 L36 Mf Lb O14 La M1 L2 M2 La M3 L31 M4 L2 M2 L7 Me L30 M3 L24 M5 L1 M9 L3d M1 Lc M2 L34",
   "M9 La M4 L2 M1 L5f M3 L2 M1 L1 M2 L6 M1 L2 M3f L5f M1 L3 Md L10 M2 L39 M2 L3 M1 L25 M1a L3b M7",
   "Lc M1 L1 M1 L1 M1 L1 Od M1f L38 M8 L2 M3 L1 M1 L17 M1 L54 M6 L1 M1 L4 M2 L1 M2 Lee M6 L4 M2 L1",
   "M2 L1b M24 L33 M8 L2 M1 L1 M2 L1f O20 L2b M1 L1 M1 L2 M6 L1 M1 L65 M3 L2 M4 L1 M9 Lff M9 L1 M2",
   "L100 M2 L1 M1 L4 M1 L90 M8 L4 M1 L20 M6 L2 M2 L28 M6 L2 M4 L8 M9 L1 M6 L2 M3 L2e Md L1 M2 Lc6",
   "M1 L1 M3 L1 M1 L7a Of L40 Me L54 M17 L1 M7 L1 M2 L1 M4b L31 M15 L1 M9 L40 M3 L2 M1 L1 M1 L15b",
   "M2 Lb M2 L34 M8 L2 M1 L1 M1 L17 M56 L25 O2a L1441 M1 L6 M19 L2cbe Mc L3 M3 L9c0 M5 L3b M7 L236",
   "O3 L1df M1 L3f M4 L4f O1 L1 Mc L4cad M2 Lf61 O300 M50 L217 M3 L11 M8 L2 M7 L1e M4 L3b O59 M3",
   "O7b L40 O60 L6a0 M37 L4 M32 L8 M1 Le M1 L16 M465 L100 M100 L30 M7 L177 M12 L2c M4 Lf O1d1 L1c",
   "M4 Lfe M2 Lf Oc1 L23 M1 L2 M1 L7 M2 L5 M9 L102 Rd0 M52 R22 M7 R5a5 O260 L1d O3 L3d O39 L7a",
   "Oda0"]

/-- The direction of a character. -/
def direction (c : Char) : Char := directionTable.letter 'L' c

/-- Whether a character makes a host name one of two directions. -/
def isRightToLeft (c : Char) : Bool := direction c = 'R' || direction c = 'N'

/-- The directions in a label without the marks at its end. -/
def directions (cs : List Char) : List Char :=
  ((cs.map direction).reverse.dropWhile (· = 'M')).reverse

/-- Whether directions start and end with some of these and have only some of those. -/
def hasShape (ends all ds : List Char) : Bool :=
  ds.all all.contains && ds.getLast?.all ends.contains

/-- Whether a label keeps the rule that its first character asks for. -/
def keepsDirection (cs : List Char) : Bool :=
  match cs.head?.map direction with
  | none => true
  | some 'L' => hasShape ['L', 'E'] ['L', 'E', 'O', 'M'] (directions cs)
  | some 'R' =>
    hasShape ['R', 'E', 'N'] ['R', 'E', 'N', 'O', 'M'] (directions cs)
      && !((directions cs).contains 'E' && (directions cs).contains 'N')
  | some _ => false

end Fostering.Text
