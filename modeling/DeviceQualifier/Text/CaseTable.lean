/-!
Case mappings outside ASCII. Most letters come in pairs that map to each other; the pairs are
stored as runs. What remains are one-way mappings, some of them to several characters.
-/
namespace DeviceQualifier.Text.Case

/-- The pairs `(upper + i * stride, lower + i * stride)` for `i < count`. -/
structure PairRun where
  upper : Nat
  count : Nat
  stride : Nat
  lower : Nat

/-- The place of `c` in a row of `count` code points from `first` on, as an offset from `first`. -/
def PairRun.offset? (first count stride c : Nat) : Option Nat :=
  if first ≤ c ∧ (c - first) % stride = 0 ∧ (c - first) / stride < count then some (c - first)
  else none

def PairRun.lower? (r : PairRun) (c : Nat) : Option Nat :=
  (offset? r.upper r.count r.stride c).map (r.lower + ·)

def PairRun.upper? (r : PairRun) (c : Nat) : Option Nat :=
  (offset? r.lower r.count r.stride c).map (r.upper + ·)

def pairRuns : List PairRun := [
  ⟨0x00C0, 23, 1, 0x00E0⟩, ⟨0x00D8, 7, 1, 0x00F8⟩, ⟨0x0100, 24, 2, 0x0101⟩, ⟨0x0132, 3, 2, 0x0133⟩,
  ⟨0x0139, 8, 2, 0x013A⟩, ⟨0x014A, 23, 2, 0x014B⟩, ⟨0x0178, 1, 1, 0x00FF⟩, ⟨0x0179, 3, 2, 0x017A⟩,
  ⟨0x0181, 1, 1, 0x0253⟩, ⟨0x0182, 2, 2, 0x0183⟩, ⟨0x0186, 1, 1, 0x0254⟩, ⟨0x0187, 1, 1, 0x0188⟩,
  ⟨0x0189, 2, 1, 0x0256⟩, ⟨0x018B, 1, 1, 0x018C⟩, ⟨0x018E, 1, 1, 0x01DD⟩, ⟨0x018F, 1, 1, 0x0259⟩,
  ⟨0x0190, 1, 1, 0x025B⟩, ⟨0x0191, 1, 1, 0x0192⟩, ⟨0x0193, 1, 1, 0x0260⟩, ⟨0x0194, 1, 1, 0x0263⟩,
  ⟨0x0196, 1, 1, 0x0269⟩, ⟨0x0197, 1, 1, 0x0268⟩, ⟨0x0198, 1, 1, 0x0199⟩, ⟨0x019C, 1, 1, 0x026F⟩,
  ⟨0x019D, 1, 1, 0x0272⟩, ⟨0x019F, 1, 1, 0x0275⟩, ⟨0x01A0, 3, 2, 0x01A1⟩, ⟨0x01A6, 1, 1, 0x0280⟩,
  ⟨0x01A7, 1, 1, 0x01A8⟩, ⟨0x01A9, 1, 1, 0x0283⟩, ⟨0x01AC, 1, 1, 0x01AD⟩, ⟨0x01AE, 1, 1, 0x0288⟩,
  ⟨0x01AF, 1, 1, 0x01B0⟩, ⟨0x01B1, 2, 1, 0x028A⟩, ⟨0x01B3, 2, 2, 0x01B4⟩, ⟨0x01B7, 1, 1, 0x0292⟩,
  ⟨0x01B8, 1, 1, 0x01B9⟩, ⟨0x01BC, 1, 1, 0x01BD⟩, ⟨0x01C4, 1, 1, 0x01C6⟩, ⟨0x01C7, 1, 1, 0x01C9⟩,
  ⟨0x01CA, 1, 1, 0x01CC⟩, ⟨0x01CD, 8, 2, 0x01CE⟩, ⟨0x01DE, 9, 2, 0x01DF⟩, ⟨0x01F1, 1, 1, 0x01F3⟩,
  ⟨0x01F4, 1, 1, 0x01F5⟩, ⟨0x01F6, 1, 1, 0x0195⟩, ⟨0x01F7, 1, 1, 0x01BF⟩, ⟨0x01F8, 20, 2, 0x01F9⟩,
  ⟨0x0220, 1, 1, 0x019E⟩, ⟨0x0222, 9, 2, 0x0223⟩, ⟨0x023A, 1, 1, 0x2C65⟩, ⟨0x023B, 1, 1, 0x023C⟩,
  ⟨0x023D, 1, 1, 0x019A⟩, ⟨0x023E, 1, 1, 0x2C66⟩, ⟨0x0241, 1, 1, 0x0242⟩, ⟨0x0243, 1, 1, 0x0180⟩,
  ⟨0x0244, 1, 1, 0x0289⟩, ⟨0x0245, 1, 1, 0x028C⟩, ⟨0x0246, 5, 2, 0x0247⟩, ⟨0x0370, 2, 2, 0x0371⟩,
  ⟨0x0376, 1, 1, 0x0377⟩, ⟨0x037F, 1, 1, 0x03F3⟩, ⟨0x0386, 1, 1, 0x03AC⟩, ⟨0x0388, 3, 1, 0x03AD⟩,
  ⟨0x038C, 1, 1, 0x03CC⟩, ⟨0x038E, 2, 1, 0x03CD⟩, ⟨0x0391, 17, 1, 0x03B1⟩, ⟨0x03A3, 9, 1, 0x03C3⟩,
  ⟨0x03CF, 1, 1, 0x03D7⟩, ⟨0x03D8, 12, 2, 0x03D9⟩, ⟨0x03F7, 1, 1, 0x03F8⟩, ⟨0x03F9, 1, 1, 0x03F2⟩,
  ⟨0x03FA, 1, 1, 0x03FB⟩, ⟨0x03FD, 3, 1, 0x037B⟩, ⟨0x0400, 16, 1, 0x0450⟩, ⟨0x0410, 32, 1, 0x0430⟩,
  ⟨0x0460, 17, 2, 0x0461⟩, ⟨0x048A, 27, 2, 0x048B⟩, ⟨0x04C0, 1, 1, 0x04CF⟩, ⟨0x04C1, 7, 2, 0x04C2⟩,
  ⟨0x04D0, 48, 2, 0x04D1⟩, ⟨0x0531, 38, 1, 0x0561⟩, ⟨0x10A0, 38, 1, 0x2D00⟩,
  ⟨0x10C7, 1, 1, 0x2D27⟩, ⟨0x10CD, 1, 1, 0x2D2D⟩, ⟨0x13A0, 80, 1, 0xAB70⟩, ⟨0x13F0, 6, 1, 0x13F8⟩,
  ⟨0x1C90, 43, 1, 0x10D0⟩, ⟨0x1CBD, 3, 1, 0x10FD⟩, ⟨0x1E00, 75, 2, 0x1E01⟩,
  ⟨0x1EA0, 48, 2, 0x1EA1⟩, ⟨0x1F08, 8, 1, 0x1F00⟩, ⟨0x1F18, 6, 1, 0x1F10⟩, ⟨0x1F28, 8, 1, 0x1F20⟩,
  ⟨0x1F38, 8, 1, 0x1F30⟩, ⟨0x1F48, 6, 1, 0x1F40⟩, ⟨0x1F59, 4, 2, 0x1F51⟩, ⟨0x1F68, 8, 1, 0x1F60⟩,
  ⟨0x1FB8, 2, 1, 0x1FB0⟩, ⟨0x1FBA, 2, 1, 0x1F70⟩, ⟨0x1FC8, 4, 1, 0x1F72⟩, ⟨0x1FD8, 2, 1, 0x1FD0⟩,
  ⟨0x1FDA, 2, 1, 0x1F76⟩, ⟨0x1FE8, 2, 1, 0x1FE0⟩, ⟨0x1FEA, 2, 1, 0x1F7A⟩, ⟨0x1FEC, 1, 1, 0x1FE5⟩,
  ⟨0x1FF8, 2, 1, 0x1F78⟩, ⟨0x1FFA, 2, 1, 0x1F7C⟩, ⟨0x2132, 1, 1, 0x214E⟩, ⟨0x2160, 16, 1, 0x2170⟩,
  ⟨0x2183, 1, 1, 0x2184⟩, ⟨0x24B6, 26, 1, 0x24D0⟩, ⟨0x2C00, 48, 1, 0x2C30⟩, ⟨0x2C60, 1, 1, 0x2C61⟩,
  ⟨0x2C62, 1, 1, 0x026B⟩, ⟨0x2C63, 1, 1, 0x1D7D⟩, ⟨0x2C64, 1, 1, 0x027D⟩, ⟨0x2C67, 3, 2, 0x2C68⟩,
  ⟨0x2C6D, 1, 1, 0x0251⟩, ⟨0x2C6E, 1, 1, 0x0271⟩, ⟨0x2C6F, 1, 1, 0x0250⟩, ⟨0x2C70, 1, 1, 0x0252⟩,
  ⟨0x2C72, 1, 1, 0x2C73⟩, ⟨0x2C75, 1, 1, 0x2C76⟩, ⟨0x2C7E, 2, 1, 0x023F⟩, ⟨0x2C80, 50, 2, 0x2C81⟩,
  ⟨0x2CEB, 2, 2, 0x2CEC⟩, ⟨0x2CF2, 1, 1, 0x2CF3⟩, ⟨0xA640, 23, 2, 0xA641⟩, ⟨0xA680, 14, 2, 0xA681⟩,
  ⟨0xA722, 7, 2, 0xA723⟩, ⟨0xA732, 31, 2, 0xA733⟩, ⟨0xA779, 2, 2, 0xA77A⟩, ⟨0xA77D, 1, 1, 0x1D79⟩,
  ⟨0xA77E, 5, 2, 0xA77F⟩, ⟨0xA78B, 1, 1, 0xA78C⟩, ⟨0xA78D, 1, 1, 0x0265⟩, ⟨0xA790, 2, 2, 0xA791⟩,
  ⟨0xA796, 10, 2, 0xA797⟩, ⟨0xA7AA, 1, 1, 0x0266⟩, ⟨0xA7AB, 1, 1, 0x025C⟩, ⟨0xA7AC, 1, 1, 0x0261⟩,
  ⟨0xA7AD, 1, 1, 0x026C⟩, ⟨0xA7AE, 1, 1, 0x026A⟩, ⟨0xA7B0, 1, 1, 0x029E⟩, ⟨0xA7B1, 1, 1, 0x0287⟩,
  ⟨0xA7B2, 1, 1, 0x029D⟩, ⟨0xA7B3, 1, 1, 0xAB53⟩, ⟨0xA7B4, 8, 2, 0xA7B5⟩, ⟨0xA7C4, 1, 1, 0xA794⟩,
  ⟨0xA7C5, 1, 1, 0x0282⟩, ⟨0xA7C6, 1, 1, 0x1D8E⟩, ⟨0xA7C7, 2, 2, 0xA7C8⟩, ⟨0xA7D0, 1, 1, 0xA7D1⟩,
  ⟨0xA7D6, 2, 2, 0xA7D7⟩, ⟨0xA7F5, 1, 1, 0xA7F6⟩, ⟨0xFF21, 26, 1, 0xFF41⟩,
  ⟨0x10400, 40, 1, 0x10428⟩, ⟨0x104B0, 36, 1, 0x104D8⟩, ⟨0x10570, 11, 1, 0x10597⟩,
  ⟨0x1057C, 15, 1, 0x105A3⟩, ⟨0x1058C, 7, 1, 0x105B3⟩, ⟨0x10594, 2, 1, 0x105BB⟩,
  ⟨0x10C80, 51, 1, 0x10CC0⟩, ⟨0x118A0, 32, 1, 0x118C0⟩, ⟨0x16E40, 32, 1, 0x16E60⟩,
  ⟨0x1E900, 34, 1, 0x1E922⟩]

/-- Capitals whose small form does not map back to them. -/
def oneWayLower : List (Nat × List Nat) := [
  (0x0130, [0x0069, 0x0307]), (0x01C5, [0x01C6]), (0x01C8, [0x01C9]), (0x01CB, [0x01CC]),
  (0x01F2, [0x01F3]), (0x03F4, [0x03B8]), (0x1E9E, [0x00DF]), (0x1F88, [0x1F80]),
  (0x1F89, [0x1F81]), (0x1F8A, [0x1F82]), (0x1F8B, [0x1F83]), (0x1F8C, [0x1F84]),
  (0x1F8D, [0x1F85]), (0x1F8E, [0x1F86]), (0x1F8F, [0x1F87]), (0x1F98, [0x1F90]),
  (0x1F99, [0x1F91]), (0x1F9A, [0x1F92]), (0x1F9B, [0x1F93]), (0x1F9C, [0x1F94]),
  (0x1F9D, [0x1F95]), (0x1F9E, [0x1F96]), (0x1F9F, [0x1F97]), (0x1FA8, [0x1FA0]),
  (0x1FA9, [0x1FA1]), (0x1FAA, [0x1FA2]), (0x1FAB, [0x1FA3]), (0x1FAC, [0x1FA4]),
  (0x1FAD, [0x1FA5]), (0x1FAE, [0x1FA6]), (0x1FAF, [0x1FA7]), (0x1FBC, [0x1FB3]),
  (0x1FCC, [0x1FC3]), (0x1FFC, [0x1FF3]), (0x2126, [0x03C9]), (0x212A, [0x006B]),
  (0x212B, [0x00E5])]

/-- Small and title letters whose capital form does not map back to them. -/
def oneWayUpper : List (Nat × List Nat) := [
  (0x00B5, [0x039C]), (0x00DF, [0x0053, 0x0053]), (0x0131, [0x0049]), (0x0149, [0x02BC, 0x004E]),
  (0x017F, [0x0053]), (0x01C5, [0x01C4]), (0x01C8, [0x01C7]), (0x01CB, [0x01CA]),
  (0x01F0, [0x004A, 0x030C]), (0x01F2, [0x01F1]), (0x0345, [0x0399]),
  (0x0390, [0x0399, 0x0308, 0x0301]), (0x03B0, [0x03A5, 0x0308, 0x0301]), (0x03C2, [0x03A3]),
  (0x03D0, [0x0392]), (0x03D1, [0x0398]), (0x03D5, [0x03A6]), (0x03D6, [0x03A0]),
  (0x03F0, [0x039A]), (0x03F1, [0x03A1]), (0x03F5, [0x0395]), (0x0587, [0x0535, 0x0552]),
  (0x1C80, [0x0412]), (0x1C81, [0x0414]), (0x1C82, [0x041E]), (0x1C83, [0x0421]),
  (0x1C84, [0x0422]), (0x1C85, [0x0422]), (0x1C86, [0x042A]), (0x1C87, [0x0462]),
  (0x1C88, [0xA64A]), (0x1E96, [0x0048, 0x0331]), (0x1E97, [0x0054, 0x0308]),
  (0x1E98, [0x0057, 0x030A]), (0x1E99, [0x0059, 0x030A]), (0x1E9A, [0x0041, 0x02BE]),
  (0x1E9B, [0x1E60]), (0x1F50, [0x03A5, 0x0313]), (0x1F52, [0x03A5, 0x0313, 0x0300]),
  (0x1F54, [0x03A5, 0x0313, 0x0301]), (0x1F56, [0x03A5, 0x0313, 0x0342]),
  (0x1F80, [0x1F08, 0x0399]), (0x1F81, [0x1F09, 0x0399]), (0x1F82, [0x1F0A, 0x0399]),
  (0x1F83, [0x1F0B, 0x0399]), (0x1F84, [0x1F0C, 0x0399]), (0x1F85, [0x1F0D, 0x0399]),
  (0x1F86, [0x1F0E, 0x0399]), (0x1F87, [0x1F0F, 0x0399]), (0x1F88, [0x1F08, 0x0399]),
  (0x1F89, [0x1F09, 0x0399]), (0x1F8A, [0x1F0A, 0x0399]), (0x1F8B, [0x1F0B, 0x0399]),
  (0x1F8C, [0x1F0C, 0x0399]), (0x1F8D, [0x1F0D, 0x0399]), (0x1F8E, [0x1F0E, 0x0399]),
  (0x1F8F, [0x1F0F, 0x0399]), (0x1F90, [0x1F28, 0x0399]), (0x1F91, [0x1F29, 0x0399]),
  (0x1F92, [0x1F2A, 0x0399]), (0x1F93, [0x1F2B, 0x0399]), (0x1F94, [0x1F2C, 0x0399]),
  (0x1F95, [0x1F2D, 0x0399]), (0x1F96, [0x1F2E, 0x0399]), (0x1F97, [0x1F2F, 0x0399]),
  (0x1F98, [0x1F28, 0x0399]), (0x1F99, [0x1F29, 0x0399]), (0x1F9A, [0x1F2A, 0x0399]),
  (0x1F9B, [0x1F2B, 0x0399]), (0x1F9C, [0x1F2C, 0x0399]), (0x1F9D, [0x1F2D, 0x0399]),
  (0x1F9E, [0x1F2E, 0x0399]), (0x1F9F, [0x1F2F, 0x0399]), (0x1FA0, [0x1F68, 0x0399]),
  (0x1FA1, [0x1F69, 0x0399]), (0x1FA2, [0x1F6A, 0x0399]), (0x1FA3, [0x1F6B, 0x0399]),
  (0x1FA4, [0x1F6C, 0x0399]), (0x1FA5, [0x1F6D, 0x0399]), (0x1FA6, [0x1F6E, 0x0399]),
  (0x1FA7, [0x1F6F, 0x0399]), (0x1FA8, [0x1F68, 0x0399]), (0x1FA9, [0x1F69, 0x0399]),
  (0x1FAA, [0x1F6A, 0x0399]), (0x1FAB, [0x1F6B, 0x0399]), (0x1FAC, [0x1F6C, 0x0399]),
  (0x1FAD, [0x1F6D, 0x0399]), (0x1FAE, [0x1F6E, 0x0399]), (0x1FAF, [0x1F6F, 0x0399]),
  (0x1FB2, [0x1FBA, 0x0399]), (0x1FB3, [0x0391, 0x0399]), (0x1FB4, [0x0386, 0x0399]),
  (0x1FB6, [0x0391, 0x0342]), (0x1FB7, [0x0391, 0x0342, 0x0399]), (0x1FBC, [0x0391, 0x0399]),
  (0x1FBE, [0x0399]), (0x1FC2, [0x1FCA, 0x0399]), (0x1FC3, [0x0397, 0x0399]),
  (0x1FC4, [0x0389, 0x0399]), (0x1FC6, [0x0397, 0x0342]), (0x1FC7, [0x0397, 0x0342, 0x0399]),
  (0x1FCC, [0x0397, 0x0399]), (0x1FD2, [0x0399, 0x0308, 0x0300]),
  (0x1FD3, [0x0399, 0x0308, 0x0301]), (0x1FD6, [0x0399, 0x0342]),
  (0x1FD7, [0x0399, 0x0308, 0x0342]), (0x1FE2, [0x03A5, 0x0308, 0x0300]),
  (0x1FE3, [0x03A5, 0x0308, 0x0301]), (0x1FE4, [0x03A1, 0x0313]), (0x1FE6, [0x03A5, 0x0342]),
  (0x1FE7, [0x03A5, 0x0308, 0x0342]), (0x1FF2, [0x1FFA, 0x0399]), (0x1FF3, [0x03A9, 0x0399]),
  (0x1FF4, [0x038F, 0x0399]), (0x1FF6, [0x03A9, 0x0342]), (0x1FF7, [0x03A9, 0x0342, 0x0399]),
  (0x1FFC, [0x03A9, 0x0399]), (0xFB00, [0x0046, 0x0046]), (0xFB01, [0x0046, 0x0049]),
  (0xFB02, [0x0046, 0x004C]), (0xFB03, [0x0046, 0x0046, 0x0049]),
  (0xFB04, [0x0046, 0x0046, 0x004C]), (0xFB05, [0x0053, 0x0054]), (0xFB06, [0x0053, 0x0054]),
  (0xFB13, [0x0544, 0x0546]), (0xFB14, [0x0544, 0x0535]), (0xFB15, [0x0544, 0x053B]),
  (0xFB16, [0x054E, 0x0546]), (0xFB17, [0x0544, 0x053D])]

end DeviceQualifier.Text.Case
