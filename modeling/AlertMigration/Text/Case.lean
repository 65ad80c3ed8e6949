import AlertMigration.Text.Basic

/-!
Lower and upper case of a text, by the full mappings of Unicode 14: a character may become several, and a
capital sigma at the end of a word becomes the final sigma.

A run maps every code point from `first` to `last` in steps of `step` to the code point that lies as far
behind `target` as it lies behind `first`. Characters whose mapping has more than one character stand in
tables of their own. Two more tables serve the rule for the final sigma.
-/

namespace AlertMigration.Text

structure CaseRun where
  first : Nat
  last : Nat
  step : Nat
  target : Nat
deriving DecidableEq, Repr

def CaseRun.image? (run : CaseRun) (code : Nat) : Option Nat :=
  if run.first ≤ code && code ≤ run.last && (code - run.first) % run.step == 0 then
    some (run.target + (code - run.first))
  else
    none

def lowerRuns : List CaseRun :=
  [⟨0x0041, 0x005A, 1, 0x0061⟩, ⟨0x00C0, 0x00D6, 1, 0x00E0⟩, ⟨0x00D8, 0x00DE, 1, 0x00F8⟩,
    ⟨0x0100, 0x012E, 2, 0x0101⟩, ⟨0x0132, 0x0136, 2, 0x0133⟩, ⟨0x0139, 0x0147, 2, 0x013A⟩,
    ⟨0x014A, 0x0176, 2, 0x014B⟩, ⟨0x0178, 0x0178, 1, 0x00FF⟩, ⟨0x0179, 0x017D, 2, 0x017A⟩,
    ⟨0x0181, 0x0181, 1, 0x0253⟩, ⟨0x0182, 0x0184, 2, 0x0183⟩, ⟨0x0186, 0x0186, 1, 0x0254⟩,
    ⟨0x0187, 0x0187, 1, 0x0188⟩, ⟨0x0189, 0x018A, 1, 0x0256⟩, ⟨0x018B, 0x018B, 1, 0x018C⟩,
    ⟨0x018E, 0x018E, 1, 0x01DD⟩, ⟨0x018F, 0x018F, 1, 0x0259⟩, ⟨0x0190, 0x0190, 1, 0x025B⟩,
    ⟨0x0191, 0x0191, 1, 0x0192⟩, ⟨0x0193, 0x0193, 1, 0x0260⟩, ⟨0x0194, 0x0194, 1, 0x0263⟩,
    ⟨0x0196, 0x0196, 1, 0x0269⟩, ⟨0x0197, 0x0197, 1, 0x0268⟩, ⟨0x0198, 0x0198, 1, 0x0199⟩,
    ⟨0x019C, 0x019C, 1, 0x026F⟩, ⟨0x019D, 0x019D, 1, 0x0272⟩, ⟨0x019F, 0x019F, 1, 0x0275⟩,
    ⟨0x01A0, 0x01A4, 2, 0x01A1⟩, ⟨0x01A6, 0x01A6, 1, 0x0280⟩, ⟨0x01A7, 0x01A7, 1, 0x01A8⟩,
    ⟨0x01A9, 0x01A9, 1, 0x0283⟩, ⟨0x01AC, 0x01AC, 1, 0x01AD⟩, ⟨0x01AE, 0x01AE, 1, 0x0288⟩,
    ⟨0x01AF, 0x01AF, 1, 0x01B0⟩, ⟨0x01B1, 0x01B2, 1, 0x028A⟩, ⟨0x01B3, 0x01B5, 2, 0x01B4⟩,
    ⟨0x01B7, 0x01B7, 1, 0x0292⟩, ⟨0x01B8, 0x01B8, 1, 0x01B9⟩, ⟨0x01BC, 0x01BC, 1, 0x01BD⟩,
    ⟨0x01C4, 0x01C4, 1, 0x01C6⟩, ⟨0x01C5, 0x01C5, 1, 0x01C6⟩, ⟨0x01C7, 0x01C7, 1, 0x01C9⟩,
    ⟨0x01C8, 0x01C8, 1, 0x01C9⟩, ⟨0x01CA, 0x01CA, 1, 0x01CC⟩, ⟨0x01CB, 0x01DB, 2, 0x01CC⟩,
    ⟨0x01DE, 0x01EE, 2, 0x01DF⟩, ⟨0x01F1, 0x01F1, 1, 0x01F3⟩, ⟨0x01F2, 0x01F4, 2, 0x01F3⟩,
    ⟨0x01F6, 0x01F6, 1, 0x0195⟩, ⟨0x01F7, 0x01F7, 1, 0x01BF⟩, ⟨0x01F8, 0x021E, 2, 0x01F9⟩,
    ⟨0x0220, 0x0220, 1, 0x019E⟩, ⟨0x0222, 0x0232, 2, 0x0223⟩, ⟨0x023A, 0x023A, 1, 0x2C65⟩,
    ⟨0x023B, 0x023B, 1, 0x023C⟩, ⟨0x023D, 0x023D, 1, 0x019A⟩, ⟨0x023E, 0x023E, 1, 0x2C66⟩,
    ⟨0x0241, 0x0241, 1, 0x0242⟩, ⟨0x0243, 0x0243, 1, 0x0180⟩, ⟨0x0244, 0x0244, 1, 0x0289⟩,
    ⟨0x0245, 0x0245, 1, 0x028C⟩, ⟨0x0246, 0x024E, 2, 0x0247⟩, ⟨0x0370, 0x0372, 2, 0x0371⟩,
    ⟨0x0376, 0x0376, 1, 0x0377⟩, ⟨0x037F, 0x037F, 1, 0x03F3⟩, ⟨0x0386, 0x0386, 1, 0x03AC⟩,
    ⟨0x0388, 0x038A, 1, 0x03AD⟩, ⟨0x038C, 0x038C, 1, 0x03CC⟩, ⟨0x038E, 0x038F, 1, 0x03CD⟩,
    ⟨0x0391, 0x03A1, 1, 0x03B1⟩, ⟨0x03A3, 0x03AB, 1, 0x03C3⟩, ⟨0x03CF, 0x03CF, 1, 0x03D7⟩,
    ⟨0x03D8, 0x03EE, 2, 0x03D9⟩, ⟨0x03F4, 0x03F4, 1, 0x03B8⟩, ⟨0x03F7, 0x03F7, 1, 0x03F8⟩,
    ⟨0x03F9, 0x03F9, 1, 0x03F2⟩, ⟨0x03FA, 0x03FA, 1, 0x03FB⟩, ⟨0x03FD, 0x03FF, 1, 0x037B⟩,
    ⟨0x0400, 0x040F, 1, 0x0450⟩, ⟨0x0410, 0x042F, 1, 0x0430⟩, ⟨0x0460, 0x0480, 2, 0x0461⟩,
    ⟨0x048A, 0x04BE, 2, 0x048B⟩, ⟨0x04C0, 0x04C0, 1, 0x04CF⟩, ⟨0x04C1, 0x04CD, 2, 0x04C2⟩,
    ⟨0x04D0, 0x052E, 2, 0x04D1⟩, ⟨0x0531, 0x0556, 1, 0x0561⟩, ⟨0x10A0, 0x10C5, 1, 0x2D00⟩,
    ⟨0x10C7, 0x10C7, 1, 0x2D27⟩, ⟨0x10CD, 0x10CD, 1, 0x2D2D⟩, ⟨0x13A0, 0x13EF, 1, 0xAB70⟩,
    ⟨0x13F0, 0x13F5, 1, 0x13F8⟩, ⟨0x1C90, 0x1CBA, 1, 0x10D0⟩, ⟨0x1CBD, 0x1CBF, 1, 0x10FD⟩,
    ⟨0x1E00, 0x1E94, 2, 0x1E01⟩, ⟨0x1E9E, 0x1E9E, 1, 0x00DF⟩, ⟨0x1EA0, 0x1EFE, 2, 0x1EA1⟩,
    ⟨0x1F08, 0x1F0F, 1, 0x1F00⟩, ⟨0x1F18, 0x1F1D, 1, 0x1F10⟩, ⟨0x1F28, 0x1F2F, 1, 0x1F20⟩,
    ⟨0x1F38, 0x1F3F, 1, 0x1F30⟩, ⟨0x1F48, 0x1F4D, 1, 0x1F40⟩, ⟨0x1F59, 0x1F5F, 2, 0x1F51⟩,
    ⟨0x1F68, 0x1F6F, 1, 0x1F60⟩, ⟨0x1F88, 0x1F8F, 1, 0x1F80⟩, ⟨0x1F98, 0x1F9F, 1, 0x1F90⟩,
    ⟨0x1FA8, 0x1FAF, 1, 0x1FA0⟩, ⟨0x1FB8, 0x1FB9, 1, 0x1FB0⟩, ⟨0x1FBA, 0x1FBB, 1, 0x1F70⟩,
    ⟨0x1FBC, 0x1FBC, 1, 0x1FB3⟩, ⟨0x1FC8, 0x1FCB, 1, 0x1F72⟩, ⟨0x1FCC, 0x1FCC, 1, 0x1FC3⟩,
    ⟨0x1FD8, 0x1FD9, 1, 0x1FD0⟩, ⟨0x1FDA, 0x1FDB, 1, 0x1F76⟩, ⟨0x1FE8, 0x1FE9, 1, 0x1FE0⟩,
    ⟨0x1FEA, 0x1FEB, 1, 0x1F7A⟩, ⟨0x1FEC, 0x1FEC, 1, 0x1FE5⟩, ⟨0x1FF8, 0x1FF9, 1, 0x1F78⟩,
    ⟨0x1FFA, 0x1FFB, 1, 0x1F7C⟩, ⟨0x1FFC, 0x1FFC, 1, 0x1FF3⟩, ⟨0x2126, 0x2126, 1, 0x03C9⟩,
    ⟨0x212A, 0x212A, 1, 0x006B⟩, ⟨0x212B, 0x212B, 1, 0x00E5⟩, ⟨0x2132, 0x2132, 1, 0x214E⟩,
    ⟨0x2160, 0x216F, 1, 0x2170⟩, ⟨0x2183, 0x2183, 1, 0x2184⟩, ⟨0x24B6, 0x24CF, 1, 0x24D0⟩,
    ⟨0x2C00, 0x2C2F, 1, 0x2C30⟩, ⟨0x2C60, 0x2C60, 1, 0x2C61⟩, ⟨0x2C62, 0x2C62, 1, 0x026B⟩,
    ⟨0x2C63, 0x2C63, 1, 0x1D7D⟩, ⟨0x2C64, 0x2C64, 1, 0x027D⟩, ⟨0x2C67, 0x2C6B, 2, 0x2C68⟩,
    ⟨0x2C6D, 0x2C6D, 1, 0x0251⟩, ⟨0x2C6E, 0x2C6E, 1, 0x0271⟩, ⟨0x2C6F, 0x2C6F, 1, 0x0250⟩,
    ⟨0x2C70, 0x2C70, 1, 0x0252⟩, ⟨0x2C72, 0x2C72, 1, 0x2C73⟩, ⟨0x2C75, 0x2C75, 1, 0x2C76⟩,
    ⟨0x2C7E, 0x2C7F, 1, 0x023F⟩, ⟨0x2C80, 0x2CE2, 2, 0x2C81⟩, ⟨0x2CEB, 0x2CED, 2, 0x2CEC⟩,
    ⟨0x2CF2, 0x2CF2, 1, 0x2CF3⟩, ⟨0xA640, 0xA66C, 2, 0xA641⟩, ⟨0xA680, 0xA69A, 2, 0xA681⟩,
    ⟨0xA722, 0xA72E, 2, 0xA723⟩, ⟨0xA732, 0xA76E, 2, 0xA733⟩, ⟨0xA779, 0xA77B, 2, 0xA77A⟩,
    ⟨0xA77D, 0xA77D, 1, 0x1D79⟩, ⟨0xA77E, 0xA786, 2, 0xA77F⟩, ⟨0xA78B, 0xA78B, 1, 0xA78C⟩,
    ⟨0xA78D, 0xA78D, 1, 0x0265⟩, ⟨0xA790, 0xA792, 2, 0xA791⟩, ⟨0xA796, 0xA7A8, 2, 0xA797⟩,
    ⟨0xA7AA, 0xA7AA, 1, 0x0266⟩, ⟨0xA7AB, 0xA7AB, 1, 0x025C⟩, ⟨0xA7AC, 0xA7AC, 1, 0x0261⟩,
    ⟨0xA7AD, 0xA7AD, 1, 0x026C⟩, ⟨0xA7AE, 0xA7AE, 1, 0x026A⟩, ⟨0xA7B0, 0xA7B0, 1, 0x029E⟩,
    ⟨0xA7B1, 0xA7B1, 1, 0x0287⟩, ⟨0xA7B2, 0xA7B2, 1, 0x029D⟩, ⟨0xA7B3, 0xA7B3, 1, 0xAB53⟩,
    ⟨0xA7B4, 0xA7C2, 2, 0xA7B5⟩, ⟨0xA7C4, 0xA7C4, 1, 0xA794⟩, ⟨0xA7C5, 0xA7C5, 1, 0x0282⟩,
    ⟨0xA7C6, 0xA7C6, 1, 0x1D8E⟩, ⟨0xA7C7, 0xA7C9, 2, 0xA7C8⟩, ⟨0xA7D0, 0xA7D0, 1, 0xA7D1⟩,
    ⟨0xA7D6, 0xA7D8, 2, 0xA7D7⟩, ⟨0xA7F5, 0xA7F5, 1, 0xA7F6⟩, ⟨0xFF21, 0xFF3A, 1, 0xFF41⟩,
    ⟨0x10400, 0x10427, 1, 0x10428⟩, ⟨0x104B0, 0x104D3, 1, 0x104D8⟩,
    ⟨0x10570, 0x1057A, 1, 0x10597⟩, ⟨0x1057C, 0x1058A, 1, 0x105A3⟩,
    ⟨0x1058C, 0x10592, 1, 0x105B3⟩, ⟨0x10594, 0x10595, 1, 0x105BB⟩,
    ⟨0x10C80, 0x10CB2, 1, 0x10CC0⟩, ⟨0x118A0, 0x118BF, 1, 0x118C0⟩,
    ⟨0x16E40, 0x16E5F, 1, 0x16E60⟩, ⟨0x1E900, 0x1E921, 1, 0x1E922⟩]

def lowerExpansions : List (Nat × List Nat) :=
  [(0x0130, [0x0069, 0x0307])]

def upperRuns : List CaseRun :=
  [⟨0x0061, 0x007A, 1, 0x0041⟩, ⟨0x00B5, 0x00B5, 1, 0x039C⟩, ⟨0x00E0, 0x00F6, 1, 0x00C0⟩,
    ⟨0x00F8, 0x00FE, 1, 0x00D8⟩, ⟨0x00FF, 0x00FF, 1, 0x0178⟩, ⟨0x0101, 0x012F, 2, 0x0100⟩,
    ⟨0x0131, 0x0131, 1, 0x0049⟩, ⟨0x0133, 0x0137, 2, 0x0132⟩, ⟨0x013A, 0x0148, 2, 0x0139⟩,
    ⟨0x014B, 0x0177, 2, 0x014A⟩, ⟨0x017A, 0x017E, 2, 0x0179⟩, ⟨0x017F, 0x017F, 1, 0x0053⟩,
    ⟨0x0180, 0x0180, 1, 0x0243⟩, ⟨0x0183, 0x0185, 2, 0x0182⟩, ⟨0x0188, 0x0188, 1, 0x0187⟩,
    ⟨0x018C, 0x018C, 1, 0x018B⟩, ⟨0x0192, 0x0192, 1, 0x0191⟩, ⟨0x0195, 0x0195, 1, 0x01F6⟩,
    ⟨0x0199, 0x0199, 1, 0x0198⟩, ⟨0x019A, 0x019A, 1, 0x023D⟩, ⟨0x019E, 0x019E, 1, 0x0220⟩,
    ⟨0x01A1, 0x01A5, 2, 0x01A0⟩, ⟨0x01A8, 0x01A8, 1, 0x01A7⟩, ⟨0x01AD, 0x01AD, 1, 0x01AC⟩,
    ⟨0x01B0, 0x01B0, 1, 0x01AF⟩, ⟨0x01B4, 0x01B6, 2, 0x01B3⟩, ⟨0x01B9, 0x01B9, 1, 0x01B8⟩,
    ⟨0x01BD, 0x01BD, 1, 0x01BC⟩, ⟨0x01BF, 0x01BF, 1, 0x01F7⟩, ⟨0x01C5, 0x01C5, 1, 0x01C4⟩,
    ⟨0x01C6, 0x01C6, 1, 0x01C4⟩, ⟨0x01C8, 0x01C8, 1, 0x01C7⟩, ⟨0x01C9, 0x01C9, 1, 0x01C7⟩,
    ⟨0x01CB, 0x01CB, 1, 0x01CA⟩, ⟨0x01CC, 0x01CC, 1, 0x01CA⟩, ⟨0x01CE, 0x01DC, 2, 0x01CD⟩,
    ⟨0x01DD, 0x01DD, 1, 0x018E⟩, ⟨0x01DF, 0x01EF, 2, 0x01DE⟩, ⟨0x01F2, 0x01F2, 1, 0x01F1⟩,
    ⟨0x01F3, 0x01F3, 1, 0x01F1⟩, ⟨0x01F5, 0x01F5, 1, 0x01F4⟩, ⟨0x01F9, 0x021F, 2, 0x01F8⟩,
    ⟨0x0223, 0x0233, 2, 0x0222⟩, ⟨0x023C, 0x023C, 1, 0x023B⟩, ⟨0x023F, 0x0240, 1, 0x2C7E⟩,
    ⟨0x0242, 0x0242, 1, 0x0241⟩, ⟨0x0247, 0x024F, 2, 0x0246⟩, ⟨0x0250, 0x0250, 1, 0x2C6F⟩,
    ⟨0x0251, 0x0251, 1, 0x2C6D⟩, ⟨0x0252, 0x0252, 1, 0x2C70⟩, ⟨0x0253, 0x0253, 1, 0x0181⟩,
    ⟨0x0254, 0x0254, 1, 0x0186⟩, ⟨0x0256, 0x0257, 1, 0x0189⟩, ⟨0x0259, 0x0259, 1, 0x018F⟩,
    ⟨0x025B, 0x025B, 1, 0x0190⟩, ⟨0x025C, 0x025C, 1, 0xA7AB⟩, ⟨0x0260, 0x0260, 1, 0x0193⟩,
    ⟨0x0261, 0x0261, 1, 0xA7AC⟩, ⟨0x0263, 0x0263, 1, 0x0194⟩, ⟨0x0265, 0x0265, 1, 0xA78D⟩,
    ⟨0x0266, 0x0266, 1, 0xA7AA⟩, ⟨0x0268, 0x0268, 1, 0x0197⟩, ⟨0x0269, 0x0269, 1, 0x0196⟩,
    ⟨0x026A, 0x026A, 1, 0xA7AE⟩, ⟨0x026B, 0x026B, 1, 0x2C62⟩, ⟨0x026C, 0x026C, 1, 0xA7AD⟩,
    ⟨0x026F, 0x026F, 1, 0x019C⟩, ⟨0x0271, 0x0271, 1, 0x2C6E⟩, ⟨0x0272, 0x0272, 1, 0x019D⟩,
    ⟨0x0275, 0x0275, 1, 0x019F⟩, ⟨0x027D, 0x027D, 1, 0x2C64⟩, ⟨0x0280, 0x0280, 1, 0x01A6⟩,
    ⟨0x0282, 0x0282, 1, 0xA7C5⟩, ⟨0x0283, 0x0283, 1, 0x01A9⟩, ⟨0x0287, 0x0287, 1, 0xA7B1⟩,
    ⟨0x0288, 0x0288, 1, 0x01AE⟩, ⟨0x0289, 0x0289, 1, 0x0244⟩, ⟨0x028A, 0x028B, 1, 0x01B1⟩,
    ⟨0x028C, 0x028C, 1, 0x0245⟩, ⟨0x0292, 0x0292, 1, 0x01B7⟩, ⟨0x029D, 0x029D, 1, 0xA7B2⟩,
    ⟨0x029E, 0x029E, 1, 0xA7B0⟩, ⟨0x0345, 0x0345, 1, 0x0399⟩, ⟨0x0371, 0x0373, 2, 0x0370⟩,
    ⟨0x0377, 0x0377, 1, 0x0376⟩, ⟨0x037B, 0x037D, 1, 0x03FD⟩, ⟨0x03AC, 0x03AC, 1, 0x0386⟩,
    ⟨0x03AD, 0x03AF, 1, 0x0388⟩, ⟨0x03B1, 0x03C1, 1, 0x0391⟩, ⟨0x03C2, 0x03C2, 1, 0x03A3⟩,
    ⟨0x03C3, 0x03CB, 1, 0x03A3⟩, ⟨0x03CC, 0x03CC, 1, 0x038C⟩, ⟨0x03CD, 0x03CE, 1, 0x038E⟩,
    ⟨0x03D0, 0x03D0, 1, 0x0392⟩, ⟨0x03D1, 0x03D1, 1, 0x0398⟩, ⟨0x03D5, 0x03D5, 1, 0x03A6⟩,
    ⟨0x03D6, 0x03D6, 1, 0x03A0⟩, ⟨0x03D7, 0x03D7, 1, 0x03CF⟩, ⟨0x03D9, 0x03EF, 2, 0x03D8⟩,
    ⟨0x03F0, 0x03F0, 1, 0x039A⟩, ⟨0x03F1, 0x03F1, 1, 0x03A1⟩, ⟨0x03F2, 0x03F2, 1, 0x03F9⟩,
    ⟨0x03F3, 0x03F3, 1, 0x037F⟩, ⟨0x03F5, 0x03F5, 1, 0x0395⟩, ⟨0x03F8, 0x03F8, 1, 0x03F7⟩,
    ⟨0x03FB, 0x03FB, 1, 0x03FA⟩, ⟨0x0430, 0x044F, 1, 0x0410⟩, ⟨0x0450, 0x045F, 1, 0x0400⟩,
    ⟨0x0461, 0x0481, 2, 0x0460⟩, ⟨0x048B, 0x04BF, 2, 0x048A⟩, ⟨0x04C2, 0x04CE, 2, 0x04C1⟩,
    ⟨0x04CF, 0x04CF, 1, 0x04C0⟩, ⟨0x04D1, 0x052F, 2, 0x04D0⟩, ⟨0x0561, 0x0586, 1, 0x0531⟩,
    ⟨0x10D0, 0x10FA, 1, 0x1C90⟩, ⟨0x10FD, 0x10FF, 1, 0x1CBD⟩, ⟨0x13F8, 0x13FD, 1, 0x13F0⟩,
    ⟨0x1C80, 0x1C80, 1, 0x0412⟩, ⟨0x1C81, 0x1C81, 1, 0x0414⟩, ⟨0x1C82, 0x1C82, 1, 0x041E⟩,
    ⟨0x1C83, 0x1C84, 1, 0x0421⟩, ⟨0x1C85, 0x1C85, 1, 0x0422⟩, ⟨0x1C86, 0x1C86, 1, 0x042A⟩,
    ⟨0x1C87, 0x1C87, 1, 0x0462⟩, ⟨0x1C88, 0x1C88, 1, 0xA64A⟩, ⟨0x1D79, 0x1D79, 1, 0xA77D⟩,
    ⟨0x1D7D, 0x1D7D, 1, 0x2C63⟩, ⟨0x1D8E, 0x1D8E, 1, 0xA7C6⟩, ⟨0x1E01, 0x1E95, 2, 0x1E00⟩,
    ⟨0x1E9B, 0x1E9B, 1, 0x1E60⟩, ⟨0x1EA1, 0x1EFF, 2, 0x1EA0⟩, ⟨0x1F00, 0x1F07, 1, 0x1F08⟩,
    ⟨0x1F10, 0x1F15, 1, 0x1F18⟩, ⟨0x1F20, 0x1F27, 1, 0x1F28⟩, ⟨0x1F30, 0x1F37, 1, 0x1F38⟩,
    ⟨0x1F40, 0x1F45, 1, 0x1F48⟩, ⟨0x1F51, 0x1F57, 2, 0x1F59⟩, ⟨0x1F60, 0x1F67, 1, 0x1F68⟩,
    ⟨0x1F70, 0x1F71, 1, 0x1FBA⟩, ⟨0x1F72, 0x1F75, 1, 0x1FC8⟩, ⟨0x1F76, 0x1F77, 1, 0x1FDA⟩,
    ⟨0x1F78, 0x1F79, 1, 0x1FF8⟩, ⟨0x1F7A, 0x1F7B, 1, 0x1FEA⟩, ⟨0x1F7C, 0x1F7D, 1, 0x1FFA⟩,
    ⟨0x1FB0, 0x1FB1, 1, 0x1FB8⟩, ⟨0x1FBE, 0x1FBE, 1, 0x0399⟩, ⟨0x1FD0, 0x1FD1, 1, 0x1FD8⟩,
    ⟨0x1FE0, 0x1FE1, 1, 0x1FE8⟩, ⟨0x1FE5, 0x1FE5, 1, 0x1FEC⟩, ⟨0x214E, 0x214E, 1, 0x2132⟩,
    ⟨0x2170, 0x217F, 1, 0x2160⟩, ⟨0x2184, 0x2184, 1, 0x2183⟩, ⟨0x24D0, 0x24E9, 1, 0x24B6⟩,
    ⟨0x2C30, 0x2C5F, 1, 0x2C00⟩, ⟨0x2C61, 0x2C61, 1, 0x2C60⟩, ⟨0x2C65, 0x2C65, 1, 0x023A⟩,
    ⟨0x2C66, 0x2C66, 1, 0x023E⟩, ⟨0x2C68, 0x2C6C, 2, 0x2C67⟩, ⟨0x2C73, 0x2C73, 1, 0x2C72⟩,
    ⟨0x2C76, 0x2C76, 1, 0x2C75⟩, ⟨0x2C81, 0x2CE3, 2, 0x2C80⟩, ⟨0x2CEC, 0x2CEE, 2, 0x2CEB⟩,
    ⟨0x2CF3, 0x2CF3, 1, 0x2CF2⟩, ⟨0x2D00, 0x2D25, 1, 0x10A0⟩, ⟨0x2D27, 0x2D27, 1, 0x10C7⟩,
    ⟨0x2D2D, 0x2D2D, 1, 0x10CD⟩, ⟨0xA641, 0xA66D, 2, 0xA640⟩, ⟨0xA681, 0xA69B, 2, 0xA680⟩,
    ⟨0xA723, 0xA72F, 2, 0xA722⟩, ⟨0xA733, 0xA76F, 2, 0xA732⟩, ⟨0xA77A, 0xA77C, 2, 0xA779⟩,
    ⟨0xA77F, 0xA787, 2, 0xA77E⟩, ⟨0xA78C, 0xA78C, 1, 0xA78B⟩, ⟨0xA791, 0xA793, 2, 0xA790⟩,
    ⟨0xA794, 0xA794, 1, 0xA7C4⟩, ⟨0xA797, 0xA7A9, 2, 0xA796⟩, ⟨0xA7B5, 0xA7C3, 2, 0xA7B4⟩,
    ⟨0xA7C8, 0xA7CA, 2, 0xA7C7⟩, ⟨0xA7D1, 0xA7D1, 1, 0xA7D0⟩, ⟨0xA7D7, 0xA7D9, 2, 0xA7D6⟩,
    ⟨0xA7F6, 0xA7F6, 1, 0xA7F5⟩, ⟨0xAB53, 0xAB53, 1, 0xA7B3⟩, ⟨0xAB70, 0xABBF, 1, 0x13A0⟩,
    ⟨0xFF41, 0xFF5A, 1, 0xFF21⟩, ⟨0x10428, 0x1044F, 1, 0x10400⟩, ⟨0x104D8, 0x104FB, 1, 0x104B0⟩,
    ⟨0x10597, 0x105A1, 1, 0x10570⟩, ⟨0x105A3, 0x105B1, 1, 0x1057C⟩,
    ⟨0x105B3, 0x105B9, 1, 0x1058C⟩, ⟨0x105BB, 0x105BC, 1, 0x10594⟩,
    ⟨0x10CC0, 0x10CF2, 1, 0x10C80⟩, ⟨0x118C0, 0x118DF, 1, 0x118A0⟩,
    ⟨0x16E60, 0x16E7F, 1, 0x16E40⟩, ⟨0x1E922, 0x1E943, 1, 0x1E900⟩]

def upperExpansions : List (Nat × List Nat) :=
  [(0x00DF, [0x0053, 0x0053]), (0x0149, [0x02BC, 0x004E]), (0x01F0, [0x004A, 0x030C]),
    (0x0390, [0x0399, 0x0308, 0x0301]), (0x03B0, [0x03A5, 0x0308, 0x0301]),
    (0x0587, [0x0535, 0x0552]), (0x1E96, [0x0048, 0x0331]), (0x1E97, [0x0054, 0x0308]),
    (0x1E98, [0x0057, 0x030A]), (0x1E99, [0x0059, 0x030A]), (0x1E9A, [0x0041, 0x02BE]),
    (0x1F50, [0x03A5, 0x0313]), (0x1F52, [0x03A5, 0x0313, 0x0300]),
    (0x1F54, [0x03A5, 0x0313, 0x0301]), (0x1F56, [0x03A5, 0x0313, 0x0342]),
    (0x1F80, [0x1F08, 0x0399]), (0x1F81, [0x1F09, 0x0399]), (0x1F82, [0x1F0A, 0x0399]),
    (0x1F83, [0x1F0B, 0x0399]), (0x1F84, [0x1F0C, 0x0399]), (0x1F85, [0x1F0D, 0x0399]),
    (0x1F86, [0x1F0E, 0x0399]), (0x1F87, [0x1F0F, 0x0399]), (0x1F88, [0x1F08, 0x0399]),
    (0x1F89, [0x1F09, 0x0399]), (0x1F8A, [0x1F0A, 0x0399]), (0x1F8B, [0x1F0B, 0x0399]),
    (0x1F8C, [0x1F0C, 0x0399]), (0x1F8D, [0x1F0D, 0x0399]), (0x1F8E, [0x1F0E, 0x0399]),
    (0x1F8F, [0x1F0F, 0x0399]), (0x1F90, [0x1F28, 0x0399]), (0x1F91, [0x1F29, 0x0399]),
    (0x1F92, [0x1F2A, 0x0399]), (0x1F93, [0x1F2B, 0x0399]), (0x1F94, [0x1F2C, 0x0399]),
    (0x1F95, [0x1F2D, 0x0399]), (0x1F96, [0x1F2E, 0x0399]), (0x1F97, [0x1F2F, 0x0399]),
    (0x1F98, [0x1F28, 0x0399]), (0x1F99, [0x1F29, 0x0399]), (0x1F9A, [0x1F2A, 0x0399]),
    (0x1F9B, [0x1F2B, 0x0399]), (0x1F9C, [0x1F2C, 0x0399]), (0x1F9D, [0x1F2D, 0x0399]),
    (0x1F9E, [0x1F2E, 0x0399]), (0x1F9F, [0x1F2F, 0x0399]), (0x1FA0, [0x1F68, 0x0399]),
    (0x1FA1, [0x1F69, 0x0399]), (0x1FA2, [0x1F6A, 0x0399]), (0x1FA3, [0x1F6B, 0x0399]),
    (0x1FA4, [0x1F6C, 0x0399]), (0x1FA5, [0x1F6D, 0x0399]), (0x1FA6, [0x1F6E, 0x0399]),
    (0x1FA7, [0x1F6F, 0x0399]), (0x1FA8, [0x1F68, 0x0399]), (0x1FA9, [0x1F69, 0x0399]),
    (0x1FAA, [0x1F6A, 0x0399]), (0x1FAB, [0x1F6B, 0x0399]), (0x1FAC, [0x1F6C, 0x0399]),
    (0x1FAD, [0x1F6D, 0x0399]), (0x1FAE, [0x1F6E, 0x0399]), (0x1FAF, [0x1F6F, 0x0399]),
    (0x1FB2, [0x1FBA, 0x0399]), (0x1FB3, [0x0391, 0x0399]), (0x1FB4, [0x0386, 0x0399]),
    (0x1FB6, [0x0391, 0x0342]), (0x1FB7, [0x0391, 0x0342, 0x0399]), (0x1FBC, [0x0391, 0x0399]),
    (0x1FC2, [0x1FCA, 0x0399]), (0x1FC3, [0x0397, 0x0399]), (0x1FC4, [0x0389, 0x0399]),
    (0x1FC6, [0x0397, 0x0342]), (0x1FC7, [0x0397, 0x0342, 0x0399]), (0x1FCC, [0x0397, 0x0399]),
    (0x1FD2, [0x0399, 0x0308, 0x0300]), (0x1FD3, [0x0399, 0x0308, 0x0301]),
    (0x1FD6, [0x0399, 0x0342]), (0x1FD7, [0x0399, 0x0308, 0x0342]),
    (0x1FE2, [0x03A5, 0x0308, 0x0300]), (0x1FE3, [0x03A5, 0x0308, 0x0301]),
    (0x1FE4, [0x03A1, 0x0313]), (0x1FE6, [0x03A5, 0x0342]), (0x1FE7, [0x03A5, 0x0308, 0x0342]),
    (0x1FF2, [0x1FFA, 0x0399]), (0x1FF3, [0x03A9, 0x0399]), (0x1FF4, [0x038F, 0x0399]),
    (0x1FF6, [0x03A9, 0x0342]), (0x1FF7, [0x03A9, 0x0342, 0x0399]), (0x1FFC, [0x03A9, 0x0399]),
    (0xFB00, [0x0046, 0x0046]), (0xFB01, [0x0046, 0x0049]), (0xFB02, [0x0046, 0x004C]),
    (0xFB03, [0x0046, 0x0046, 0x0049]), (0xFB04, [0x0046, 0x0046, 0x004C]),
    (0xFB05, [0x0053, 0x0054]), (0xFB06, [0x0053, 0x0054]), (0xFB13, [0x0544, 0x0546]),
    (0xFB14, [0x0544, 0x0535]), (0xFB15, [0x0544, 0x053B]), (0xFB16, [0x054E, 0x0546]),
    (0xFB17, [0x0544, 0x053D])]

/-- Characters that do not interrupt a word: apostrophes, marks, modifiers and the like. -/
def caseIgnorableRanges : List CodeRange :=
  [⟨0x0027, 0x0027⟩, ⟨0x002E, 0x002E⟩, ⟨0x003A, 0x003A⟩, ⟨0x005E, 0x005E⟩, ⟨0x0060, 0x0060⟩,
    ⟨0x00A8, 0x00A8⟩, ⟨0x00AD, 0x00AD⟩, ⟨0x00AF, 0x00AF⟩, ⟨0x00B4, 0x00B4⟩, ⟨0x00B7, 0x00B8⟩,
    ⟨0x02B0, 0x036F⟩, ⟨0x0374, 0x0375⟩, ⟨0x037A, 0x037A⟩, ⟨0x0384, 0x0385⟩, ⟨0x0387, 0x0387⟩,
    ⟨0x0483, 0x0489⟩, ⟨0x0559, 0x0559⟩, ⟨0x055F, 0x055F⟩, ⟨0x0591, 0x05BD⟩, ⟨0x05BF, 0x05BF⟩,
    ⟨0x05C1, 0x05C2⟩, ⟨0x05C4, 0x05C5⟩, ⟨0x05C7, 0x05C7⟩, ⟨0x05F4, 0x05F4⟩, ⟨0x0600, 0x0605⟩,
    ⟨0x0610, 0x061A⟩, ⟨0x061C, 0x061C⟩, ⟨0x0640, 0x0640⟩, ⟨0x064B, 0x065F⟩, ⟨0x0670, 0x0670⟩,
    ⟨0x06D6, 0x06DD⟩, ⟨0x06DF, 0x06E8⟩, ⟨0x06EA, 0x06ED⟩, ⟨0x070F, 0x070F⟩, ⟨0x0711, 0x0711⟩,
    ⟨0x0730, 0x074A⟩, ⟨0x07A6, 0x07B0⟩, ⟨0x07EB, 0x07F5⟩, ⟨0x07FA, 0x07FA⟩, ⟨0x07FD, 0x07FD⟩,
    ⟨0x0816, 0x082D⟩, ⟨0x0859, 0x085B⟩, ⟨0x0888, 0x0888⟩, ⟨0x0890, 0x0891⟩, ⟨0x0898, 0x089F⟩,
    ⟨0x08C9, 0x0902⟩, ⟨0x093A, 0x093A⟩, ⟨0x093C, 0x093C⟩, ⟨0x0941, 0x0948⟩, ⟨0x094D, 0x094D⟩,
    ⟨0x0951, 0x0957⟩, ⟨0x0962, 0x0963⟩, ⟨0x0971, 0x0971⟩, ⟨0x0981, 0x0981⟩, ⟨0x09BC, 0x09BC⟩,
    ⟨0x09C1, 0x09C4⟩, ⟨0x09CD, 0x09CD⟩, ⟨0x09E2, 0x09E3⟩, ⟨0x09FE, 0x09FE⟩, ⟨0x0A01, 0x0A02⟩,
    ⟨0x0A3C, 0x0A3C⟩, ⟨0x0A41, 0x0A42⟩, ⟨0x0A47, 0x0A48⟩, ⟨0x0A4B, 0x0A4D⟩, ⟨0x0A51, 0x0A51⟩,
    ⟨0x0A70, 0x0A71⟩, ⟨0x0A75, 0x0A75⟩, ⟨0x0A81, 0x0A82⟩, ⟨0x0ABC, 0x0ABC⟩, ⟨0x0AC1, 0x0AC5⟩,
    ⟨0x0AC7, 0x0AC8⟩, ⟨0x0ACD, 0x0ACD⟩, ⟨0x0AE2, 0x0AE3⟩, ⟨0x0AFA, 0x0AFF⟩, ⟨0x0B01, 0x0B01⟩,
    ⟨0x0B3C, 0x0B3C⟩, ⟨0x0B3F, 0x0B3F⟩, ⟨0x0B41, 0x0B44⟩, ⟨0x0B4D, 0x0B4D⟩, ⟨0x0B55, 0x0B56⟩,
    ⟨0x0B62, 0x0B63⟩, ⟨0x0B82, 0x0B82⟩, ⟨0x0BC0, 0x0BC0⟩, ⟨0x0BCD, 0x0BCD⟩, ⟨0x0C00, 0x0C00⟩,
    ⟨0x0C04, 0x0C04⟩, ⟨0x0C3C, 0x0C3C⟩, ⟨0x0C3E, 0x0C40⟩, ⟨0x0C46, 0x0C48⟩, ⟨0x0C4A, 0x0C4D⟩,
    ⟨0x0C55, 0x0C56⟩, ⟨0x0C62, 0x0C63⟩, ⟨0x0C81, 0x0C81⟩, ⟨0x0CBC, 0x0CBC⟩, ⟨0x0CBF, 0x0CBF⟩,
    ⟨0x0CC6, 0x0CC6⟩, ⟨0x0CCC, 0x0CCD⟩, ⟨0x0CE2, 0x0CE3⟩, ⟨0x0D00, 0x0D01⟩, ⟨0x0D3B, 0x0D3C⟩,
    ⟨0x0D41, 0x0D44⟩, ⟨0x0D4D, 0x0D4D⟩, ⟨0x0D62, 0x0D63⟩, ⟨0x0D81, 0x0D81⟩, ⟨0x0DCA, 0x0DCA⟩,
    ⟨0x0DD2, 0x0DD4⟩, ⟨0x0DD6, 0x0DD6⟩, ⟨0x0E31, 0x0E31⟩, ⟨0x0E34, 0x0E3A⟩, ⟨0x0E46, 0x0E4E⟩,
    ⟨0x0EB1, 0x0EB1⟩, ⟨0x0EB4, 0x0EBC⟩, ⟨0x0EC6, 0x0EC6⟩, ⟨0x0EC8, 0x0ECD⟩, ⟨0x0F18, 0x0F19⟩,
    ⟨0x0F35, 0x0F35⟩, ⟨0x0F37, 0x0F37⟩, ⟨0x0F39, 0x0F39⟩, ⟨0x0F71, 0x0F7E⟩, ⟨0x0F80, 0x0F84⟩,
    ⟨0x0F86, 0x0F87⟩, ⟨0x0F8D, 0x0F97⟩, ⟨0x0F99, 0x0FBC⟩, ⟨0x0FC6, 0x0FC6⟩, ⟨0x102D, 0x1030⟩,
    ⟨0x1032, 0x1037⟩, ⟨0x1039, 0x103A⟩, ⟨0x103D, 0x103E⟩, ⟨0x1058, 0x1059⟩, ⟨0x105E, 0x1060⟩,
    ⟨0x1071, 0x1074⟩, ⟨0x1082, 0x1082⟩, ⟨0x1085, 0x1086⟩, ⟨0x108D, 0x108D⟩, ⟨0x109D, 0x109D⟩,
    ⟨0x10FC, 0x10FC⟩, ⟨0x135D, 0x135F⟩, ⟨0x1712, 0x1714⟩, ⟨0x1732, 0x1733⟩, ⟨0x1752, 0x1753⟩,
    ⟨0x1772, 0x1773⟩, ⟨0x17B4, 0x17B5⟩, ⟨0x17B7, 0x17BD⟩, ⟨0x17C6, 0x17C6⟩, ⟨0x17C9, 0x17D3⟩,
    ⟨0x17D7, 0x17D7⟩, ⟨0x17DD, 0x17DD⟩, ⟨0x180B, 0x180F⟩, ⟨0x1843, 0x1843⟩, ⟨0x1885, 0x1886⟩,
    ⟨0x18A9, 0x18A9⟩, ⟨0x1920, 0x1922⟩, ⟨0x1927, 0x1928⟩, ⟨0x1932, 0x1932⟩, ⟨0x1939, 0x193B⟩,
    ⟨0x1A17, 0x1A18⟩, ⟨0x1A1B, 0x1A1B⟩, ⟨0x1A56, 0x1A56⟩, ⟨0x1A58, 0x1A5E⟩, ⟨0x1A60, 0x1A60⟩,
    ⟨0x1A62, 0x1A62⟩, ⟨0x1A65, 0x1A6C⟩, ⟨0x1A73, 0x1A7C⟩, ⟨0x1A7F, 0x1A7F⟩, ⟨0x1AA7, 0x1AA7⟩,
    ⟨0x1AB0, 0x1ACE⟩, ⟨0x1B00, 0x1B03⟩, ⟨0x1B34, 0x1B34⟩, ⟨0x1B36, 0x1B3A⟩, ⟨0x1B3C, 0x1B3C⟩,
    ⟨0x1B42, 0x1B42⟩, ⟨0x1B6B, 0x1B73⟩, ⟨0x1B80, 0x1B81⟩, ⟨0x1BA2, 0x1BA5⟩, ⟨0x1BA8, 0x1BA9⟩,
    ⟨0x1BAB, 0x1BAD⟩, ⟨0x1BE6, 0x1BE6⟩, ⟨0x1BE8, 0x1BE9⟩, ⟨0x1BED, 0x1BED⟩, ⟨0x1BEF, 0x1BF1⟩,
    ⟨0x1C2C, 0x1C33⟩, ⟨0x1C36, 0x1C37⟩, ⟨0x1C78, 0x1C7D⟩, ⟨0x1CD0, 0x1CD2⟩, ⟨0x1CD4, 0x1CE0⟩,
    ⟨0x1CE2, 0x1CE8⟩, ⟨0x1CED, 0x1CED⟩, ⟨0x1CF4, 0x1CF4⟩, ⟨0x1CF8, 0x1CF9⟩, ⟨0x1D2C, 0x1D6A⟩,
    ⟨0x1D78, 0x1D78⟩, ⟨0x1D9B, 0x1DFF⟩, ⟨0x1FBD, 0x1FBD⟩, ⟨0x1FBF, 0x1FC1⟩, ⟨0x1FCD, 0x1FCF⟩,
    ⟨0x1FDD, 0x1FDF⟩, ⟨0x1FED, 0x1FEF⟩, ⟨0x1FFD, 0x1FFE⟩, ⟨0x200B, 0x200F⟩, ⟨0x2018, 0x2019⟩,
    ⟨0x2024, 0x2024⟩, ⟨0x2027, 0x2027⟩, ⟨0x202A, 0x202E⟩, ⟨0x2060, 0x2064⟩, ⟨0x2066, 0x206F⟩,
    ⟨0x2071, 0x2071⟩, ⟨0x207F, 0x207F⟩, ⟨0x2090, 0x209C⟩, ⟨0x20D0, 0x20F0⟩, ⟨0x2C7C, 0x2C7D⟩,
    ⟨0x2CEF, 0x2CF1⟩, ⟨0x2D6F, 0x2D6F⟩, ⟨0x2D7F, 0x2D7F⟩, ⟨0x2DE0, 0x2DFF⟩, ⟨0x2E2F, 0x2E2F⟩,
    ⟨0x3005, 0x3005⟩, ⟨0x302A, 0x302D⟩, ⟨0x3031, 0x3035⟩, ⟨0x303B, 0x303B⟩, ⟨0x3099, 0x309E⟩,
    ⟨0x30FC, 0x30FE⟩, ⟨0xA015, 0xA015⟩, ⟨0xA4F8, 0xA4FD⟩, ⟨0xA60C, 0xA60C⟩, ⟨0xA66F, 0xA672⟩,
    ⟨0xA674, 0xA67D⟩, ⟨0xA67F, 0xA67F⟩, ⟨0xA69C, 0xA69F⟩, ⟨0xA6F0, 0xA6F1⟩, ⟨0xA700, 0xA721⟩,
    ⟨0xA770, 0xA770⟩, ⟨0xA788, 0xA78A⟩, ⟨0xA7F2, 0xA7F4⟩, ⟨0xA7F8, 0xA7F9⟩, ⟨0xA802, 0xA802⟩,
    ⟨0xA806, 0xA806⟩, ⟨0xA80B, 0xA80B⟩, ⟨0xA825, 0xA826⟩, ⟨0xA82C, 0xA82C⟩, ⟨0xA8C4, 0xA8C5⟩,
    ⟨0xA8E0, 0xA8F1⟩, ⟨0xA8FF, 0xA8FF⟩, ⟨0xA926, 0xA92D⟩, ⟨0xA947, 0xA951⟩, ⟨0xA980, 0xA982⟩,
    ⟨0xA9B3, 0xA9B3⟩, ⟨0xA9B6, 0xA9B9⟩, ⟨0xA9BC, 0xA9BD⟩, ⟨0xA9CF, 0xA9CF⟩, ⟨0xA9E5, 0xA9E6⟩,
    ⟨0xAA29, 0xAA2E⟩, ⟨0xAA31, 0xAA32⟩, ⟨0xAA35, 0xAA36⟩, ⟨0xAA43, 0xAA43⟩, ⟨0xAA4C, 0xAA4C⟩,
    ⟨0xAA70, 0xAA70⟩, ⟨0xAA7C, 0xAA7C⟩, ⟨0xAAB0, 0xAAB0⟩, ⟨0xAAB2, 0xAAB4⟩, ⟨0xAAB7, 0xAAB8⟩,
    ⟨0xAABE, 0xAABF⟩, ⟨0xAAC1, 0xAAC1⟩, ⟨0xAADD, 0xAADD⟩, ⟨0xAAEC, 0xAAED⟩, ⟨0xAAF3, 0xAAF4⟩,
    ⟨0xAAF6, 0xAAF6⟩, ⟨0xAB5B, 0xAB5F⟩, ⟨0xAB69, 0xAB6B⟩, ⟨0xABE5, 0xABE5⟩, ⟨0xABE8, 0xABE8⟩,
    ⟨0xABED, 0xABED⟩, ⟨0xFB1E, 0xFB1E⟩, ⟨0xFBB2, 0xFBC2⟩, ⟨0xFE00, 0xFE0F⟩, ⟨0xFE13, 0xFE13⟩,
    ⟨0xFE20, 0xFE2F⟩, ⟨0xFE52, 0xFE52⟩, ⟨0xFE55, 0xFE55⟩, ⟨0xFEFF, 0xFEFF⟩, ⟨0xFF07, 0xFF07⟩,
    ⟨0xFF0E, 0xFF0E⟩, ⟨0xFF1A, 0xFF1A⟩, ⟨0xFF3E, 0xFF3E⟩, ⟨0xFF40, 0xFF40⟩, ⟨0xFF70, 0xFF70⟩,
    ⟨0xFF9E, 0xFF9F⟩, ⟨0xFFE3, 0xFFE3⟩, ⟨0xFFF9, 0xFFFB⟩, ⟨0x101FD, 0x101FD⟩, ⟨0x102E0, 0x102E0⟩,
    ⟨0x10376, 0x1037A⟩, ⟨0x10780, 0x10785⟩, ⟨0x10787, 0x107B0⟩, ⟨0x107B2, 0x107BA⟩,
    ⟨0x10A01, 0x10A03⟩, ⟨0x10A05, 0x10A06⟩, ⟨0x10A0C, 0x10A0F⟩, ⟨0x10A38, 0x10A3A⟩,
    ⟨0x10A3F, 0x10A3F⟩, ⟨0x10AE5, 0x10AE6⟩, ⟨0x10D24, 0x10D27⟩, ⟨0x10EAB, 0x10EAC⟩,
    ⟨0x10F46, 0x10F50⟩, ⟨0x10F82, 0x10F85⟩, ⟨0x11001, 0x11001⟩, ⟨0x11038, 0x11046⟩,
    ⟨0x11070, 0x11070⟩, ⟨0x11073, 0x11074⟩, ⟨0x1107F, 0x11081⟩, ⟨0x110B3, 0x110B6⟩,
    ⟨0x110B9, 0x110BA⟩, ⟨0x110BD, 0x110BD⟩, ⟨0x110C2, 0x110C2⟩, ⟨0x110CD, 0x110CD⟩,
    ⟨0x11100, 0x11102⟩, ⟨0x11127, 0x1112B⟩, ⟨0x1112D, 0x11134⟩, ⟨0x11173, 0x11173⟩,
    ⟨0x11180, 0x11181⟩, ⟨0x111B6, 0x111BE⟩, ⟨0x111C9, 0x111CC⟩, ⟨0x111CF, 0x111CF⟩,
    ⟨0x1122F, 0x11231⟩, ⟨0x11234, 0x11234⟩, ⟨0x11236, 0x11237⟩, ⟨0x1123E, 0x1123E⟩,
    ⟨0x112DF, 0x112DF⟩, ⟨0x112E3, 0x112EA⟩, ⟨0x11300, 0x11301⟩, ⟨0x1133B, 0x1133C⟩,
    ⟨0x11340, 0x11340⟩, ⟨0x11366, 0x1136C⟩, ⟨0x11370, 0x11374⟩, ⟨0x11438, 0x1143F⟩,
    ⟨0x11442, 0x11444⟩, ⟨0x11446, 0x11446⟩, ⟨0x1145E, 0x1145E⟩, ⟨0x114B3, 0x114B8⟩,
    ⟨0x114BA, 0x114BA⟩, ⟨0x114BF, 0x114C0⟩, ⟨0x114C2, 0x114C3⟩, ⟨0x115B2, 0x115B5⟩,
    ⟨0x115BC, 0x115BD⟩, ⟨0x115BF, 0x115C0⟩, ⟨0x115DC, 0x115DD⟩, ⟨0x11633, 0x1163A⟩,
    ⟨0x1163D, 0x1163D⟩, ⟨0x1163F, 0x11640⟩, ⟨0x116AB, 0x116AB⟩, ⟨0x116AD, 0x116AD⟩,
    ⟨0x116B0, 0x116B5⟩, ⟨0x116B7, 0x116B7⟩, ⟨0x1171D, 0x1171F⟩, ⟨0x11722, 0x11725⟩,
    ⟨0x11727, 0x1172B⟩, ⟨0x1182F, 0x11837⟩, ⟨0x11839, 0x1183A⟩, ⟨0x1193B, 0x1193C⟩,
    ⟨0x1193E, 0x1193E⟩, ⟨0x11943, 0x11943⟩, ⟨0x119D4, 0x119D7⟩, ⟨0x119DA, 0x119DB⟩,
    ⟨0x119E0, 0x119E0⟩, ⟨0x11A01, 0x11A0A⟩, ⟨0x11A33, 0x11A38⟩, ⟨0x11A3B, 0x11A3E⟩,
    ⟨0x11A47, 0x11A47⟩, ⟨0x11A51, 0x11A56⟩, ⟨0x11A59, 0x11A5B⟩, ⟨0x11A8A, 0x11A96⟩,
    ⟨0x11A98, 0x11A99⟩, ⟨0x11C30, 0x11C36⟩, ⟨0x11C38, 0x11C3D⟩, ⟨0x11C3F, 0x11C3F⟩,
    ⟨0x11C92, 0x11CA7⟩, ⟨0x11CAA, 0x11CB0⟩, ⟨0x11CB2, 0x11CB3⟩, ⟨0x11CB5, 0x11CB6⟩,
    ⟨0x11D31, 0x11D36⟩, ⟨0x11D3A, 0x11D3A⟩, ⟨0x11D3C, 0x11D3D⟩, ⟨0x11D3F, 0x11D45⟩,
    ⟨0x11D47, 0x11D47⟩, ⟨0x11D90, 0x11D91⟩, ⟨0x11D95, 0x11D95⟩, ⟨0x11D97, 0x11D97⟩,
    ⟨0x11EF3, 0x11EF4⟩, ⟨0x13430, 0x13438⟩, ⟨0x16AF0, 0x16AF4⟩, ⟨0x16B30, 0x16B36⟩,
    ⟨0x16B40, 0x16B43⟩, ⟨0x16F4F, 0x16F4F⟩, ⟨0x16F8F, 0x16F9F⟩, ⟨0x16FE0, 0x16FE1⟩,
    ⟨0x16FE3, 0x16FE4⟩, ⟨0x1AFF0, 0x1AFF3⟩, ⟨0x1AFF5, 0x1AFFB⟩, ⟨0x1AFFD, 0x1AFFE⟩,
    ⟨0x1BC9D, 0x1BC9E⟩, ⟨0x1BCA0, 0x1BCA3⟩, ⟨0x1CF00, 0x1CF2D⟩, ⟨0x1CF30, 0x1CF46⟩,
    ⟨0x1D167, 0x1D169⟩, ⟨0x1D173, 0x1D182⟩, ⟨0x1D185, 0x1D18B⟩, ⟨0x1D1AA, 0x1D1AD⟩,
    ⟨0x1D242, 0x1D244⟩, ⟨0x1DA00, 0x1DA36⟩, ⟨0x1DA3B, 0x1DA6C⟩, ⟨0x1DA75, 0x1DA75⟩,
    ⟨0x1DA84, 0x1DA84⟩, ⟨0x1DA9B, 0x1DA9F⟩, ⟨0x1DAA1, 0x1DAAF⟩, ⟨0x1E000, 0x1E006⟩,
    ⟨0x1E008, 0x1E018⟩, ⟨0x1E01B, 0x1E021⟩, ⟨0x1E023, 0x1E024⟩, ⟨0x1E026, 0x1E02A⟩,
    ⟨0x1E130, 0x1E13D⟩, ⟨0x1E2AE, 0x1E2AE⟩, ⟨0x1E2EC, 0x1E2EF⟩, ⟨0x1E8D0, 0x1E8D6⟩,
    ⟨0x1E944, 0x1E94B⟩, ⟨0x1F3FB, 0x1F3FF⟩, ⟨0xE0001, 0xE0001⟩, ⟨0xE0020, 0xE007F⟩,
    ⟨0xE0100, 0xE01EF⟩]

/-- Letters with case that are not in the table above. -/
def casedRanges : List CodeRange :=
  [⟨0x0041, 0x005A⟩, ⟨0x0061, 0x007A⟩, ⟨0x00AA, 0x00AA⟩, ⟨0x00B5, 0x00B5⟩, ⟨0x00BA, 0x00BA⟩,
    ⟨0x00C0, 0x00D6⟩, ⟨0x00D8, 0x00F6⟩, ⟨0x00F8, 0x01BA⟩, ⟨0x01BC, 0x01BF⟩, ⟨0x01C4, 0x0293⟩,
    ⟨0x0295, 0x02AF⟩, ⟨0x0370, 0x0373⟩, ⟨0x0376, 0x0377⟩, ⟨0x037B, 0x037D⟩, ⟨0x037F, 0x037F⟩,
    ⟨0x0386, 0x0386⟩, ⟨0x0388, 0x038A⟩, ⟨0x038C, 0x038C⟩, ⟨0x038E, 0x03A1⟩, ⟨0x03A3, 0x03F5⟩,
    ⟨0x03F7, 0x0481⟩, ⟨0x048A, 0x052F⟩, ⟨0x0531, 0x0556⟩, ⟨0x0560, 0x0588⟩, ⟨0x10A0, 0x10C5⟩,
    ⟨0x10C7, 0x10C7⟩, ⟨0x10CD, 0x10CD⟩, ⟨0x10D0, 0x10FA⟩, ⟨0x10FD, 0x10FF⟩, ⟨0x13A0, 0x13F5⟩,
    ⟨0x13F8, 0x13FD⟩, ⟨0x1C80, 0x1C88⟩, ⟨0x1C90, 0x1CBA⟩, ⟨0x1CBD, 0x1CBF⟩, ⟨0x1D00, 0x1D2B⟩,
    ⟨0x1D6B, 0x1D77⟩, ⟨0x1D79, 0x1D9A⟩, ⟨0x1E00, 0x1F15⟩, ⟨0x1F18, 0x1F1D⟩, ⟨0x1F20, 0x1F45⟩,
    ⟨0x1F48, 0x1F4D⟩, ⟨0x1F50, 0x1F57⟩, ⟨0x1F59, 0x1F59⟩, ⟨0x1F5B, 0x1F5B⟩, ⟨0x1F5D, 0x1F5D⟩,
    ⟨0x1F5F, 0x1F7D⟩, ⟨0x1F80, 0x1FB4⟩, ⟨0x1FB6, 0x1FBC⟩, ⟨0x1FBE, 0x1FBE⟩, ⟨0x1FC2, 0x1FC4⟩,
    ⟨0x1FC6, 0x1FCC⟩, ⟨0x1FD0, 0x1FD3⟩, ⟨0x1FD6, 0x1FDB⟩, ⟨0x1FE0, 0x1FEC⟩, ⟨0x1FF2, 0x1FF4⟩,
    ⟨0x1FF6, 0x1FFC⟩, ⟨0x2102, 0x2102⟩, ⟨0x2107, 0x2107⟩, ⟨0x210A, 0x2113⟩, ⟨0x2115, 0x2115⟩,
    ⟨0x2119, 0x211D⟩, ⟨0x2124, 0x2124⟩, ⟨0x2126, 0x2126⟩, ⟨0x2128, 0x2128⟩, ⟨0x212A, 0x212D⟩,
    ⟨0x212F, 0x2134⟩, ⟨0x2139, 0x2139⟩, ⟨0x213C, 0x213F⟩, ⟨0x2145, 0x2149⟩, ⟨0x214E, 0x214E⟩,
    ⟨0x2160, 0x217F⟩, ⟨0x2183, 0x2184⟩, ⟨0x24B6, 0x24E9⟩, ⟨0x2C00, 0x2C7B⟩, ⟨0x2C7E, 0x2CE4⟩,
    ⟨0x2CEB, 0x2CEE⟩, ⟨0x2CF2, 0x2CF3⟩, ⟨0x2D00, 0x2D25⟩, ⟨0x2D27, 0x2D27⟩, ⟨0x2D2D, 0x2D2D⟩,
    ⟨0xA640, 0xA66D⟩, ⟨0xA680, 0xA69B⟩, ⟨0xA722, 0xA76F⟩, ⟨0xA771, 0xA787⟩, ⟨0xA78B, 0xA78E⟩,
    ⟨0xA790, 0xA7CA⟩, ⟨0xA7D0, 0xA7D1⟩, ⟨0xA7D3, 0xA7D3⟩, ⟨0xA7D5, 0xA7D9⟩, ⟨0xA7F5, 0xA7F6⟩,
    ⟨0xA7FA, 0xA7FA⟩, ⟨0xAB30, 0xAB5A⟩, ⟨0xAB60, 0xAB68⟩, ⟨0xAB70, 0xABBF⟩, ⟨0xFB00, 0xFB06⟩,
    ⟨0xFB13, 0xFB17⟩, ⟨0xFF21, 0xFF3A⟩, ⟨0xFF41, 0xFF5A⟩, ⟨0x10400, 0x1044F⟩, ⟨0x104B0, 0x104D3⟩,
    ⟨0x104D8, 0x104FB⟩, ⟨0x10570, 0x1057A⟩, ⟨0x1057C, 0x1058A⟩, ⟨0x1058C, 0x10592⟩,
    ⟨0x10594, 0x10595⟩, ⟨0x10597, 0x105A1⟩, ⟨0x105A3, 0x105B1⟩, ⟨0x105B3, 0x105B9⟩,
    ⟨0x105BB, 0x105BC⟩, ⟨0x10C80, 0x10CB2⟩, ⟨0x10CC0, 0x10CF2⟩, ⟨0x118A0, 0x118DF⟩,
    ⟨0x16E40, 0x16E7F⟩, ⟨0x1D400, 0x1D454⟩, ⟨0x1D456, 0x1D49C⟩, ⟨0x1D49E, 0x1D49F⟩,
    ⟨0x1D4A2, 0x1D4A2⟩, ⟨0x1D4A5, 0x1D4A6⟩, ⟨0x1D4A9, 0x1D4AC⟩, ⟨0x1D4AE, 0x1D4B9⟩,
    ⟨0x1D4BB, 0x1D4BB⟩, ⟨0x1D4BD, 0x1D4C3⟩, ⟨0x1D4C5, 0x1D505⟩, ⟨0x1D507, 0x1D50A⟩,
    ⟨0x1D50D, 0x1D514⟩, ⟨0x1D516, 0x1D51C⟩, ⟨0x1D51E, 0x1D539⟩, ⟨0x1D53B, 0x1D53E⟩,
    ⟨0x1D540, 0x1D544⟩, ⟨0x1D546, 0x1D546⟩, ⟨0x1D54A, 0x1D550⟩, ⟨0x1D552, 0x1D6A5⟩,
    ⟨0x1D6A8, 0x1D6C0⟩, ⟨0x1D6C2, 0x1D6DA⟩, ⟨0x1D6DC, 0x1D6FA⟩, ⟨0x1D6FC, 0x1D714⟩,
    ⟨0x1D716, 0x1D734⟩, ⟨0x1D736, 0x1D74E⟩, ⟨0x1D750, 0x1D76E⟩, ⟨0x1D770, 0x1D788⟩,
    ⟨0x1D78A, 0x1D7A8⟩, ⟨0x1D7AA, 0x1D7C2⟩, ⟨0x1D7C4, 0x1D7CB⟩, ⟨0x1DF00, 0x1DF09⟩,
    ⟨0x1DF0B, 0x1DF1E⟩, ⟨0x1E900, 0x1E943⟩, ⟨0x1F130, 0x1F149⟩, ⟨0x1F150, 0x1F169⟩,
    ⟨0x1F170, 0x1F189⟩]

/-! ### The mappings of a text -/

private def caseImage (expansions : List (Nat × List Nat)) (runs : List CaseRun) (c : Char) : Text :=
  match expansions.lookup c.toNat with
  | some codes => codes.map Char.ofNat
  | none =>
      match runs.findSome? (·.image? c.toNat) with
      | some code => [Char.ofNat code]
      | none => [c]

def upperChar (c : Char) : Text :=
  caseImage upperExpansions upperRuns c

def lowerChar (c : Char) : Text :=
  caseImage lowerExpansions lowerRuns c

def upper (text : Text) : Text :=
  text.flatMap upperChar

def startsCased (text : Text) : Bool :=
  match text.dropWhile (CodeRange.anyContains caseIgnorableRanges) with
  | [] => false
  | c :: _ => CodeRange.anyContains casedRanges c

/-- Lower case of a text that stands after `before`, given from its last character backwards. -/
def lowerAfter (before : Text) : Text → Text
  | [] => []
  | c :: rest =>
      let image :=
        if c == 'Σ' then (if startsCased before && !startsCased rest then ['ς'] else ['σ'])
        else lowerChar c
      image ++ lowerAfter (c :: before) rest

def lower (text : Text) : Text :=
  lowerAfter [] text

end AlertMigration.Text
