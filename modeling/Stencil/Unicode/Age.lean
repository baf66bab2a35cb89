import Stencil.Unicode.Ranges

/-!
# Ages

The version of the Unicode standard in which a code point was assigned, up to version 16.0. Private
use code points and noncharacters have an age too.
-/

namespace Stencil.Unicode

namespace Age

/-- The versions in order, each with its letter in the table. -/
def versions : List (String × Char) :=
  [("1.1", 'A'), ("2.0", 'B'), ("2.1", 'C'), ("3.0", 'D'), ("3.1", 'E'), ("3.2", 'F'),
   ("4.0", 'G'), ("4.1", 'H'), ("5.0", 'I'), ("5.1", 'J'), ("5.2", 'K'), ("6.0", 'L'),
   ("6.1", 'M'), ("6.2", 'N'), ("6.3", 'O'), ("7.0", 'P'), ("8.0", 'Q'), ("9.0", 'R'),
   ("10.0", 'S'), ("11.0", 'T'), ("12.0", 'U'), ("12.1", 'V'), ("13.0", 'W'), ("14.0", 'X'),
   ("15.0", 'Y'), ("15.1", 'Z'), ("16.0", 'z')]

/-- A run list of the letters of versions; a hyphen is for what has no age. -/
def runLines : List String :=
  ["1f6A4D1eA8DFG12D3GbHeI59A5D2G2fADaA5D11G46A9DF8G5H3G2ADdF4J2A2J2-A3IAP4-7A-A-14A-2cAJ7AD2FADAD",
   "ADAD12A2EF5G4HDcAD42ADcAD29AJ2D2F4D35A2F2A2F2A2FI1cA2D8A2H2A6I10F4I10J2K2L8P-26A2-7AT27ATAD2-2",
   "PM-11BHdBaAI9AB3H8-1bA4-T5Ab-4GMP5JHA9G5JAOXHAL1aA5J13A3D3G6HLeA2F48A2D5ADfAD1eA2GaA5DGeD-1eD3",
   "G1bD2-3G1eH12J31DFe-3bI2-3T2eK2-fK-1cL2-L-bS5-1fX-2X5-z8XMPbM6P2QX8RaWbXTfRQ1bMPK3AG35A2L12AKL",
   "5AK2L19A2J5LP2K2IH2IP3A-8A2-2A2-16A-7A-A3-4A2-AG7A2-2A2-3AH8-A4-2A-5A2-15AK2ST2-GAG-6A4-2A2-16",
   "A-7A-2A-2A-2A2-A-5A4-2A2-3A3-J7-4A-A7-fAJTa-3A-7AGA-3A-16A-7A-2A-5A2-aA-3A-3A2-Af-A3G2-aAMG7-Q",
   "6S-3A-8A2-2A2-16A-7A-2A-G4A2-8AJ2-2A2-3A7-W2A4-2A-3A2J2-bAG6La-2A-6A3-3A-4A3-2A-A-2A3-2A3-3A3-",
   "8AH3A4-5A3-3A-4A2-J6-Ae-HcA8G5-P3AT8A-3A-17A-aAP5A2-XJ7A-3A-4A7-2A-2JQ2-X2-2A2J2-aA7-U8JRP2AT8",
   "A-3A-17A-aA-5A2-2G7A-3A-4A7-2A6-XA-2A2I2-aA-2IYc-SP2AW8A-3A-17AL10AL2SJ6AJ-3A-4ALR4-3RA7RQ2A2J",
   "2-aA6J3R7J-W2D-12D3-18D-9D-D2-7D3-D4-6D-D-8D6-aP2-3Dc-3aA4-1dA25-2A-A-U2AUA-UA6U4AU7AU3A-A-A2U",
   "2AUdAU3A2-5A-A-6AY-aA2-2A2M20-48B-21BD2J4-1bB4L6BDB-15B3D7BDB3D-fD-JD2H3J4K2L25-22DJ5DJ2DJ7D3J",
   "4D6J1aD40J4K2J26A-M5-M2-27A2F2HAH3M5aA5K44A5K52A6K7DH3fDHD-4D2-7D-D-4D2-27DHD-4D2-1fDHD-4D2-7D",
   "-D-4D2-7DH7D-17DH1fDHD-4D2-7DH27DH13D2-2L2H1cD3-1aH6-55DQ2-6Q2-K276D9K1dD3-51D8P7-dFX7FX9-X17F",
   "9-14Fc-dF-3F-2Fc-5dDG2-aD6-aG6-fDXaD6-58DT7-2aDJ5-46Ka-1dG2P-cG4-cG4-G3-2aG2-5Gb-2aH2K4-1aH6-a",
   "HK3-2H20G1cH2-2H3fK-1dK2-bK6-aK6-eK2-fP2WeX31-4cIX-2z2dI2Xz2bJ3McJ6M34L8-4L38J3-fJ3-33J9R2z5-2",
   "bT2-3T8M8-23K4MS2PU5-6cG58H7I1cJfP4SXRLK2I9bAB4J5aA6J16A2-6A2-26A2-6A2-8A-A-A-A-1fA2-35A-fA-eA",
   "2-6A-13A2-3A-9A-2fAD17AF6D5F2G2HF7H5FJ-4O7AF2-1bA-5H8L3-bABC3D2F4H3KLN3PQSXf-12A2D7FH4IJf-39A2",
   "DGHfFH2IJ3K30ADI4JK2Q4-5bA9DcFf2AeFAD79ADF1eD34F2GbHcIKbL7P4RS25A2D3z16-bA15-8bA14FG96AaF50A8D",
   "8F14A2G2FHD56A2DcF2HaF8GbHJ2K2G10HIaJ3K4JaKL13KLK4L18KP4AL4A2L1cAL23ALAL4A3LAK7A2L7AeF1fA3L18A",
   "LeAL7H4IMJM2L1cF4J10F100D200FeG6H7I5J4I29J3P5J5K1aP2-20P-W22P3TcPU8PS19T4QfTU2fHX2fHXdI3JK3J4I",
   "6J2K6bH7K2M5-2dH-M5-M2-36H2M7-HLe-L17H9-7H-7H-7H-7H-7H-7H-7H-7H-20J18H4J2H13JKaM7P2R5S5TU3WbX2",
   "2-1aD-59Dc-d6D1a-cD4Z38A3D3FDA-54A2F2-6A2F5eAF5-28AJST-5eA-10A18D3L5W10H14J2z9-Z10F1dA2G-24AcK",
   "GfF1cA2GH32AfFcA4G2fAV77A4G63A2G1fAG19b6DaW40G51a6A16H8J8KM9Q15S5TdW3X48dD3-12D2F10DFcDF3DFD9-",
   "30K12cJ14-20J2L12J8M1cJ6PQM58K8-17H4I5J2I6bJ2LQ2L2McPaLM3PRT2P6Q2T6U2X5U4W3z2-2X-X-5X3z15-3X2W",
   "P2ML5J2cHW3-aK6-38I8-45JR8-cJ6-1cK2Q2T54Jb-J1dK3-4eK-bK4-2K1fP-37J9-eJ2-aJ2-4J1cK4P43K18-5K17M",
   "a-6L2-6L2-6L9-7L-7L-30P4Q2P2U4W4-50Q2eK2-aK6-2ba4Bc-17K4-31K4-800B1a2eA2M3bF3K2-6aH26-7Ac-5A5-",
   "D19A-5A-A-2A-2A-6cA10LX10-16dA10X40A2-36A7-X20EcAFG2X10FaH6-4A3J7P2Q15A2F2GaA-13A-4A4-3AFA-87A",
   "2-A-5eA2F5eA3-6A2-6A2-6A2-3A3-7A-7Aa-3DC3AcG-1aG-13G-2G-fG2-eG22-7bG5-3G4-2dG3-9G4bH2P2R-cJW3-",
   "P2f-2eJ82-1dJ3-31Jf-1cP4-1fEP4E9-3S1bE5-2bP5-1eG-G24H4-eH2a-26E2G26E50G2-aG6-24R4-24R4-28P8-34",
   "Pb-PbX-fX-7X-2X-bX-fX-7X-2X3-34zc-137P9-16Pa-8P18-6X-2aX-9X45-6G2-G-2cG-2G3-G2-G16K-9K3fP8-9P3",
   "0-13Q-2Q5-5Q1aI2K3-I1aJ5-J40-38M4-2Q2M10Q2-2eQ4H-2H5-8H-3H-1bH2T2-3H4-9HT7-9H7-20K20P20-27P4-c",
   "P9-36K3-1dK2-1bK5-8K12P7-4Pc-7P50-49K37-33Qd-33Q7-6Q28T8-aT6-26z3-1dz8-2zd0-1fK-2aW-3W2-2W10-3",
   "z37-z3Y28T8-2aT16-1aX26-1cW14-17U9-4eL4-1eL6X9-P42KXa-T2-19M7-aM6-35M-eM3TW8-27P9-49M4QP2WaMP5",
   "Q-14Pb-12P-2bPR3Y3e-7Q-Q-4Q-fQ-bQ6-3bP5-aP6-Q3P-8P2-2P2-16P-7P-2P-5P-T9P2-2P2-3P2-Q6-P5-7P2-7P",
   "3-5Pb-az-z2-z-26z-az-z2-z-4z-az-2z8-2z1d-5aRWR-RTU2W1e-48P8-aPa6-36P2-12P14Q22-45Pb-aP6-dR13-3",
   "8MUX6-aM6-14z1c-1aQT2-fQ4-10Q7Xb9-3cT64-53Pc-P7W2-W2-8W-2W-1eW-2W2-cW9-aW46-8U2-2eU2-bU1b-48S8",
   "-34S2U17ST5Sd-10X39P7-aYb6-22ze-az6-9R-2dR-eRa-1dR3-20R2-16R-eR49-7S-2S-2cS3-S-2S-9S8-aS6-6T-2",
   "T-25T-2T-6T7-aT136-19T7-11Y-29Y3-1cYz55-Wf-32Ud-U36fI2aPQ66-63IcP-4IPb-c4Qa4c-63Xd-42fKY9U1dYa",
   "-f9bz5-247Q1ab9-3az6c6-239L7-1fP-aP4-2P4fX-aX6-1eP2-6Pa-46Pa-aP-7P-15P5-13P1b0-3azc6-5bT65-45M",
   "6U4-U2fM9U7-11M40-RS2UWb-2We-17edR5T6U8-2f3R1e3W29-z9W22e7-4X-7X-2X-2L11dS4Xf-Y1d-3U2-Ye-4U8-1",
   "8cS904-6bP5-dP3-9P7-aP2-8Pf5c-faz6-1b4z4c-2eX2-17X9-74X3c-f6Ea-27E2-Jb4EbQ2X15-46H7a-14Yc-14Tc",
   "-57G9-12I7T87-55E-47E-2E2-E2-2E2-4E-cE-E-4EG2E-41E-4E2-8E-7E-1cE-4E-5E-E3-7E-152E2H2-122E2I2-3",
   "2E28cQf-5Q-fQ450-1fX6-6Yd5-7R-11R2-7R-2R-5R5-3eY21-Y70-2dU3-eU2-aU4-2U140-1fX11-3aU5-U1d0-2aYd",
   "6-2bz4-z1e0-7X-4X-2X-fX-c5P2-10P29-4bRU4-aR4-2R311-44T4c-3dUc2-4M-1bM-2M-M2-M-aM-4M-M-M6-M4-M-",
   "M-M-3M-2M-M2-M-M-M-M-M-2M-M2-4M-7M-4M-4M-M-aM-11M5-3M-5M-11M34-2M10e-2cJ4-64Jc-fL2-eLP-fL-fL16",
   "Pa-bK2P3W1fKTLKbLKLK2LK3LK3L5K8LK7LKaL2MU3W9LKL2K2LKaL4K2LKaL12RW38-1aLK2Ld-22K9LR4-9K7-2Le-6S",
   "9a-21LcP3Q6LP46LP2Q14LcP25LP5L4P5QcP11L7P8Q3fLPLPb6LP4L2PQ3eL2P4M7P5Q18L12PR29PR56P5LM10LM3LML",
   "MLMLM3LM6L2M4LML2M4LMcL2P2QbL30P46LaPQ2R2SU2W4-Y3XdP3-4P3R2STU2W3-74L3Y4-5Y55P4TY6-cU4-Xf-cP4-",
   "38P8-aP6-28P8-1eP2-2Waz4-2z3e-cSW3U9Q6RS8R8SR2ScRUcRS3TfRdS5TUW4T2WXTU4T5QdR6SbT2W6U3W2UaT6UQ2",
   "T8UWX3U17S19T54Uc-eT2-4UW3Y3U2X3-3U4W2Yz5-z6U13W4X3Y7W4X3YzY3W3Xz7-2Y7W3X2Yz2-z8XYz6-7X2Y7-93W",
   "-37W25zaW404-2Ba6d7E7W2X20-1035K4XY6-deL2-1682Qe-1d31Sf-26eZ9a2-21eE5e0-2B134bW5-1060Ydc4e-2Bf",
   "ffe-2Bfffe-2Bfffe-2Bfffe-2Bfffe-2Bfffe-2Bfffe-2Bfffe-2Bfffe-2Bfffe-2B-E1e-60E80-f0Gfe0e-20002B"]

def runs : List (Nat × List Char) :=
  readRuns 1 none [] (runLines.flatMap String.toList)

def letter (c : Char) : List Char :=
  findRun ['-'] c.toNat runs

/-- The loose names of a version: its number, or `v` and the digits of its number. -/
def names (version : String) : List String :=
  [version, String.ofList ('v' :: version.toList.filter Char.isDigit)]

/-- The letters of the version with a loose name and of those before it. -/
def lettersUpTo? (name : String) : List (String × Char) → Option (List Char)
  | [] => none
  | (version, code) :: rest =>
    if (names version).contains name then some [code] else (lettersUpTo? name rest).map (code :: ·)

def test? (name : String) : Option (Char → Bool) :=
  (lettersUpTo? name versions).map fun codes c => (letter c).all codes.contains

end Age

end Stencil.Unicode
