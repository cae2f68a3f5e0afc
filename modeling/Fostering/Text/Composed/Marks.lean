import Fostering.Text.Stretches

/-!
# Marks

Unicode's properties of the characters that combine with the one before them: which characters are
marks, and to which of the combining classes a character belongs. The classes are named by digits
and letters in their order; characters of class `0` combine with nothing, and class `5` is that of
the signs that take a letter's inherent vowel away.
-/

namespace Fostering.Text

/-- The marks. -/
def markTable : Stretches := .read
  ["U300 M71 U112 M8 U106 M2d U1 M1 U1 M2 U1 M2 U1 M9 U40 Mb U30 M15 U10 M1 U65 M8 U1 M6 U2 M2 U1",
   "M4 U23 M1 U1e M1d U59 Mb U3a M9 U9 M1 U18 M4 U1 M9 U1 M3 U1 M7 U29 M5 U39 M9 U2a M3a U36 M3 U1",
   "M12 U1 Mf U2 M2 U1d M4 U37 M1 U1 M10 U9 M9 U2 M4 U18 M7 U37 M20 U14 M2 U3 M1 Ub M4 U37 M1 U1",
   "M12 U12 M4 U14 Mb U37 M1 U1 M21 U3 M4 U1c M1 U3b M12 U7 Mf U1a M5 U37 M1 U1 M1a Ua M4 U1b M3",
   "U38 M1 U1 M1e U6 M4 Ud M11 U37 M2 U1 M10 U9 M1 Ua M4 U1b M4 U45 M1c Uc M2 U3d M1 U2 Mb U8 M8",
   "U62 M1 U2 M9 Ub M8 U48 M2 U1b M1 U1 M1 U1 M1 U4 M2 U31 M14 U1 M2 U5 M31 U8 M1 U64 M14 U17 M4",
   "U4 M3 U1 M3 U2 M7 U3 M4 Ud Mc U1 M1 Ua M4 U2bf M3 U3b2 Md U13 M3 U1d Me U12 Me U36 M1e U9 M3",
   "Ua5 M2 U22 M1 U76 M20 Ud7 M7 U37 M2b U30 M55 U2f M11 U26 M9 Uc M3 U1e Md U38 M16 U28 M17 U95",
   "M3 U1 M15 U4 M1 U6 M1 U2 M3 Uc6 M41 U2cf M34 Ubeb M4 U8c M1 U60 M20 U22a M6 U69 M4 U75d2 M4 U1",
   "Ma U20 M2 U50 M2 U110 M1 U3 M1 U4 M1 U17 M5 U4 M4 U50 M2 U32 M1a U12 M12 Ud M1 U26 M8 U19 M18",
   "U21 M4 U2f Me U24 M1 U43 M17 U3 M1 U8 M4 U2b M3 U32 M1 U1 M3 U2 M2 U5 M2 U1 M1 U29 M5 U5 Mc",
   "Ue2 M8 U1 M4 U4f2e M94 U26e M25 U3b8 M83 U60 M1 U95 Ma U681 Mf U28 M8 Ua5 M6 U239 Mc U39 M5",
   "U13d M2 U4d M6 U46 Mb U31 M4 U7a M3 U35 Mf U29 M1 U2 M2 Ua M4 U2d Mb U7 Me U30 M3 U24 Mf Uf M2",
   "U2c M1 Uc M3 U30 Me U8 M4 U1 M2 U5c Mc U6 M1 U2 M3f U5f M11 U10 M5 U36 M2 U1 M12 U7 M6 U5 M1e",
   "U38 M19 U1 M1 Ue M1f U35 M12 U17 M1 U51 M14 Ueb M12 U1b M24 U30 M11 U6a Md U65 M13 Ufc Mf Uf5",
   "Mf U1 M1 U1 M2 U8d M10 U3 M1c U1 Ma U28 M7 U1 M4 U8 M9 U1 Mb U2e M10 Uc6 M60 U6f M11 U52 M6e",
   "U31 M15 U1 M9 U3a Me U15b M4 U9 M2 U1 M1 U30 Mf U17 M56 U1490 M1 U6 M19 U2cbe M12 U9c0 M5 U3b",
   "M7 U418 M1 U1 M42 U51 Me U4cab M2 U1261 M50 U215 M5 U3 M16 U2 M7 U1e M4 U94 M3 U7bb M37 U4 M32",
   "U8 M1 Ue M1 U16 M465 U100 M100 U30 M7 U177 M12 U2c M4 U1fc M4 Ufe M2 Uf3 M1 U2 M1 U7 M2 U5 M9",
   "U1d2 M52 U22 M7"]

/-- Whether a character is a mark. -/
def isMark (c : Char) : Bool := markTable.letter 'U' c = 'M'

/-- The combining classes. -/
def combiningTable : Stretches := .read
  ["0300 p15 q1 k4 q1 i1 k5 g2 k4 g2 kb 15 k4 pa k3 p3 k3 p3 k4 p1 q1 k2 p1 r1 s2 r1 s2 r1 pe 0112",
   "p5 0109 k1 p4 k1 p3 l1 k1 p6 k6 p2 k1 p2 l1 o1 p1 61 71 81 91 A1 B1 C1 D1 E1 F2 G1 H1 I1 01 J1",
   "01 K1 L1 01 p1 k1 01 E9 040 p8 Q1 R1 S1 030 N1 O1 P1 Q1 R1 S1 T1 U1 p2 k2 p5 k1 p2 k1 010 V1",
   "065 p8 01 p4 k1 p1 02 p2 01 k1 p2 k1 023 W1 01e p1 k1 p2 k1 p2 k3 p1 k2 p1 k1 p3 k1 p1 k1 p1",
   "k1 p1 k1 p4 09e p7 k1 p1 09 k1 018 p4 01 p9 01 p3 01 p7 029 k5 039 p2 k3 p4 02a p5 k5 pf k1 p2",
   "k1 p2 k1 p3 k3 N1 O1 P1 p3 k1 p2 k2 p5 03c 31 010 51 03 p1 k1 p2 067 31 010 51 030 p3 03b 32",
   "0f 54 06b 31 010 53 06c 31 010 58 078 53 06c 31 010 58 X1 Y2 064 31 010 58 066 52 010 51 07c",
   "55 069 Z2 55 09 a4 06c b2 51 0d c4 04c k2 01b k1 01 k1 01 i1 037 d1 e2 f6 e4 02 e2 p2 51 01 p2",
   "03e k1 070 31 01 52 052 k1 02cf p3 03b4 5b 015 51 09d 51 0a p3 0c9 o1 08f l1 p1 k5 0d7 p1 k1",
   "047 51 014 pa k1 030 p5 k6 p2 k1 01 k2 p2 k2 p5 k1 p12 k3 p6 k1 p4 s15 034 31 0f 51 026 p1 k1",
   "p7 036 52 03a 31 0b 5a 03b 34 095 p3 01 11 k5 p2 k4 p1 01 17 04 k1 06 p1 03 p2 0c6 p2 k1 p7 k1",
   "p2 s1 h1 k1 g1 p25 q1 o2 k1 j1 p1 r1 k1 p1 k2 02cf p2 12 p4 13 p2 04 p1 03 12 p1 k1 p1 12 k4",
   "p14 0beb p4 08c 51 060 p20 022a j1 o1 q1 l1 m2 069 44 075d2 p1 04 pa 020 p2 050 p2 0114 51 025",
   "54 094 51 01b p12 039 k3 025 5c 054 31 0c 51 0ef p1 01 p2 k1 02 p2 05 p2 01 p1 034 5b 0ec 53",
   "04f2e M94 026e p7 k7 p17 03b8 k83 060 k1 095 pa 068d k1 01 p1 028 p1 11 k5 51 0a5 p1 k5 0239",
   "pc 039 p5 013d p2 04d k2 01 k3 046 k2 p3 k1 p1 k4 031 p1 k1 p1 k1 0c0 51 029 51 0e 51 039 51",
   "31 045 p3 030 53 03d 31 04c 51 09 31 06a 51 31 0b2 31 56 04b 32 010 53 016 p1a 04e 53 071 51",
   "03 31 017 p1 063 51 31 0fb 51 31 07e 51 076 51 31 073 55 0109 51 31 0102 52 04 31 09c 51 053",
   "51 012 59 049 51 01a5 51 0102 31 01 52 051 51 01a9 52 041ec 51 09c0 15 03b p7 04b9 22 04cac 11",
   "014c6 i2 13 03 n1 id k8 02 p5 k2 01e p4 094 p3 0dbb p100 030 p7 0177 p12 02c p4 01fc q2 k1 p1",
   "0fe p1 k1 0f3 p1 02 p1 07 p2 05 p9 01d2 k52 022 p6 31"]

/-- The combining class of a character. -/
def combiningClass (c : Char) : Char := combiningTable.letter '0' c

/-- Whether a character takes the vowel of the letter before it away. -/
def isVirama (c : Char) : Bool := combiningClass c = '5'

end Fostering.Text
