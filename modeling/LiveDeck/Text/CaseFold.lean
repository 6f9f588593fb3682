/-! # Letter case

`foldCase` maps texts that differ in letter case only to the same text: every character goes to
the upper case of its lower case, which for some letters is more than one character. -/

namespace LiveDeck.Text

/-- Letters whose folding is a shift of the code point: the first and the last of a series, the
distance between its members, and the shift. -/
structure CaseSeries where
  first : Nat
  last : Nat
  step : Nat
  shift : Int
  deriving Repr

/-- A letter whose folding has several characters. -/
structure CaseExpansion where
  letter : Nat
  text : String
  deriving Repr

/-- The series of letters. -/
def caseSeries : Array CaseSeries := #[
  ⟨0x61, 0x7A, 1, -0x20⟩, ⟨0xB5, 0xB5, 1, 0x2E7⟩, ⟨0xE0, 0xF6, 1, -0x20⟩, ⟨0xF8, 0xFE, 1, -0x20⟩,
  ⟨0xFF, 0xFF, 1, 0x79⟩, ⟨0x101, 0x12F, 2, -0x1⟩, ⟨0x131, 0x131, 1, -0xE8⟩,
  ⟨0x133, 0x137, 2, -0x1⟩, ⟨0x13A, 0x148, 2, -0x1⟩, ⟨0x14B, 0x177, 2, -0x1⟩,
  ⟨0x17A, 0x17E, 2, -0x1⟩, ⟨0x17F, 0x17F, 1, -0x12C⟩, ⟨0x180, 0x180, 1, 0xC3⟩,
  ⟨0x183, 0x185, 2, -0x1⟩, ⟨0x188, 0x188, 1, -0x1⟩, ⟨0x18C, 0x18C, 1, -0x1⟩,
  ⟨0x192, 0x192, 1, -0x1⟩, ⟨0x195, 0x195, 1, 0x61⟩, ⟨0x199, 0x199, 1, -0x1⟩,
  ⟨0x19A, 0x19A, 1, 0xA3⟩, ⟨0x19E, 0x19E, 1, 0x82⟩, ⟨0x1A1, 0x1A5, 2, -0x1⟩,
  ⟨0x1A8, 0x1A8, 1, -0x1⟩, ⟨0x1AD, 0x1AD, 1, -0x1⟩, ⟨0x1B0, 0x1B0, 1, -0x1⟩,
  ⟨0x1B4, 0x1B6, 2, -0x1⟩, ⟨0x1B9, 0x1B9, 1, -0x1⟩, ⟨0x1BD, 0x1BD, 1, -0x1⟩,
  ⟨0x1BF, 0x1BF, 1, 0x38⟩, ⟨0x1C5, 0x1C5, 1, -0x1⟩, ⟨0x1C6, 0x1C6, 1, -0x2⟩,
  ⟨0x1C8, 0x1C8, 1, -0x1⟩, ⟨0x1C9, 0x1C9, 1, -0x2⟩, ⟨0x1CB, 0x1CB, 1, -0x1⟩,
  ⟨0x1CC, 0x1CC, 1, -0x2⟩, ⟨0x1CE, 0x1DC, 2, -0x1⟩, ⟨0x1DD, 0x1DD, 1, -0x4F⟩,
  ⟨0x1DF, 0x1EF, 2, -0x1⟩, ⟨0x1F2, 0x1F2, 1, -0x1⟩, ⟨0x1F3, 0x1F3, 1, -0x2⟩,
  ⟨0x1F5, 0x1F5, 1, -0x1⟩, ⟨0x1F9, 0x21F, 2, -0x1⟩, ⟨0x223, 0x233, 2, -0x1⟩,
  ⟨0x23C, 0x23C, 1, -0x1⟩, ⟨0x23F, 0x240, 1, 0x2A3F⟩, ⟨0x242, 0x242, 1, -0x1⟩,
  ⟨0x247, 0x24F, 2, -0x1⟩, ⟨0x250, 0x250, 1, 0x2A1F⟩, ⟨0x251, 0x251, 1, 0x2A1C⟩,
  ⟨0x252, 0x252, 1, 0x2A1E⟩, ⟨0x253, 0x253, 1, -0xD2⟩, ⟨0x254, 0x254, 1, -0xCE⟩,
  ⟨0x256, 0x257, 1, -0xCD⟩, ⟨0x259, 0x259, 1, -0xCA⟩, ⟨0x25B, 0x25B, 1, -0xCB⟩,
  ⟨0x25C, 0x25C, 1, 0xA54F⟩, ⟨0x260, 0x260, 1, -0xCD⟩, ⟨0x261, 0x261, 1, 0xA54B⟩,
  ⟨0x263, 0x263, 1, -0xCF⟩, ⟨0x265, 0x265, 1, 0xA528⟩, ⟨0x266, 0x266, 1, 0xA544⟩,
  ⟨0x268, 0x268, 1, -0xD1⟩, ⟨0x269, 0x269, 1, -0xD3⟩, ⟨0x26A, 0x26A, 1, 0xA544⟩,
  ⟨0x26B, 0x26B, 1, 0x29F7⟩, ⟨0x26C, 0x26C, 1, 0xA541⟩, ⟨0x26F, 0x26F, 1, -0xD3⟩,
  ⟨0x271, 0x271, 1, 0x29FD⟩, ⟨0x272, 0x272, 1, -0xD5⟩, ⟨0x275, 0x275, 1, -0xD6⟩,
  ⟨0x27D, 0x27D, 1, 0x29E7⟩, ⟨0x280, 0x280, 1, -0xDA⟩, ⟨0x282, 0x282, 1, 0xA543⟩,
  ⟨0x283, 0x283, 1, -0xDA⟩, ⟨0x287, 0x287, 1, 0xA52A⟩, ⟨0x288, 0x288, 1, -0xDA⟩,
  ⟨0x289, 0x289, 1, -0x45⟩, ⟨0x28A, 0x28B, 1, -0xD9⟩, ⟨0x28C, 0x28C, 1, -0x47⟩,
  ⟨0x292, 0x292, 1, -0xDB⟩, ⟨0x29D, 0x29D, 1, 0xA515⟩, ⟨0x29E, 0x29E, 1, 0xA512⟩,
  ⟨0x345, 0x345, 1, 0x54⟩, ⟨0x371, 0x373, 2, -0x1⟩, ⟨0x377, 0x377, 1, -0x1⟩,
  ⟨0x37B, 0x37D, 1, 0x82⟩, ⟨0x3AC, 0x3AC, 1, -0x26⟩, ⟨0x3AD, 0x3AF, 1, -0x25⟩,
  ⟨0x3B1, 0x3C1, 1, -0x20⟩, ⟨0x3C2, 0x3C2, 1, -0x1F⟩, ⟨0x3C3, 0x3CB, 1, -0x20⟩,
  ⟨0x3CC, 0x3CC, 1, -0x40⟩, ⟨0x3CD, 0x3CE, 1, -0x3F⟩, ⟨0x3D0, 0x3D0, 1, -0x3E⟩,
  ⟨0x3D1, 0x3D1, 1, -0x39⟩, ⟨0x3D5, 0x3D5, 1, -0x2F⟩, ⟨0x3D6, 0x3D6, 1, -0x36⟩,
  ⟨0x3D7, 0x3D7, 1, -0x8⟩, ⟨0x3D9, 0x3EF, 2, -0x1⟩, ⟨0x3F0, 0x3F0, 1, -0x56⟩,
  ⟨0x3F1, 0x3F1, 1, -0x50⟩, ⟨0x3F2, 0x3F2, 1, 0x7⟩, ⟨0x3F3, 0x3F3, 1, -0x74⟩,
  ⟨0x3F4, 0x3F4, 1, -0x5C⟩, ⟨0x3F5, 0x3F5, 1, -0x60⟩, ⟨0x3F8, 0x3F8, 1, -0x1⟩,
  ⟨0x3FB, 0x3FB, 1, -0x1⟩, ⟨0x430, 0x44F, 1, -0x20⟩, ⟨0x450, 0x45F, 1, -0x50⟩,
  ⟨0x461, 0x481, 2, -0x1⟩, ⟨0x48B, 0x4BF, 2, -0x1⟩, ⟨0x4C2, 0x4CE, 2, -0x1⟩,
  ⟨0x4CF, 0x4CF, 1, -0xF⟩, ⟨0x4D1, 0x52F, 2, -0x1⟩, ⟨0x561, 0x586, 1, -0x30⟩,
  ⟨0x10D0, 0x10FA, 1, 0xBC0⟩, ⟨0x10FD, 0x10FF, 1, 0xBC0⟩, ⟨0x13F8, 0x13FD, 1, -0x8⟩,
  ⟨0x1C80, 0x1C80, 1, -0x186E⟩, ⟨0x1C81, 0x1C81, 1, -0x186D⟩, ⟨0x1C82, 0x1C82, 1, -0x1864⟩,
  ⟨0x1C83, 0x1C84, 1, -0x1862⟩, ⟨0x1C85, 0x1C85, 1, -0x1863⟩, ⟨0x1C86, 0x1C86, 1, -0x185C⟩,
  ⟨0x1C87, 0x1C87, 1, -0x1825⟩, ⟨0x1C88, 0x1C88, 1, 0x89C2⟩, ⟨0x1D79, 0x1D79, 1, 0x8A04⟩,
  ⟨0x1D7D, 0x1D7D, 1, 0xEE6⟩, ⟨0x1D8E, 0x1D8E, 1, 0x8A38⟩, ⟨0x1E01, 0x1E95, 2, -0x1⟩,
  ⟨0x1E9B, 0x1E9B, 1, -0x3B⟩, ⟨0x1EA1, 0x1EFF, 2, -0x1⟩, ⟨0x1F00, 0x1F07, 1, 0x8⟩,
  ⟨0x1F10, 0x1F15, 1, 0x8⟩, ⟨0x1F20, 0x1F27, 1, 0x8⟩, ⟨0x1F30, 0x1F37, 1, 0x8⟩,
  ⟨0x1F40, 0x1F45, 1, 0x8⟩, ⟨0x1F51, 0x1F57, 2, 0x8⟩, ⟨0x1F60, 0x1F67, 1, 0x8⟩,
  ⟨0x1F70, 0x1F71, 1, 0x4A⟩, ⟨0x1F72, 0x1F75, 1, 0x56⟩, ⟨0x1F76, 0x1F77, 1, 0x64⟩,
  ⟨0x1F78, 0x1F79, 1, 0x80⟩, ⟨0x1F7A, 0x1F7B, 1, 0x70⟩, ⟨0x1F7C, 0x1F7D, 1, 0x7E⟩,
  ⟨0x1FB0, 0x1FB1, 1, 0x8⟩, ⟨0x1FBE, 0x1FBE, 1, -0x1C25⟩, ⟨0x1FD0, 0x1FD1, 1, 0x8⟩,
  ⟨0x1FE0, 0x1FE1, 1, 0x8⟩, ⟨0x1FE5, 0x1FE5, 1, 0x7⟩, ⟨0x2126, 0x2126, 1, -0x1D7D⟩,
  ⟨0x212A, 0x212A, 1, -0x20DF⟩, ⟨0x212B, 0x212B, 1, -0x2066⟩, ⟨0x214E, 0x214E, 1, -0x1C⟩,
  ⟨0x2170, 0x217F, 1, -0x10⟩, ⟨0x2184, 0x2184, 1, -0x1⟩, ⟨0x24D0, 0x24E9, 1, -0x1A⟩,
  ⟨0x2C30, 0x2C5F, 1, -0x30⟩, ⟨0x2C61, 0x2C61, 1, -0x1⟩, ⟨0x2C65, 0x2C65, 1, -0x2A2B⟩,
  ⟨0x2C66, 0x2C66, 1, -0x2A28⟩, ⟨0x2C68, 0x2C6C, 2, -0x1⟩, ⟨0x2C73, 0x2C73, 1, -0x1⟩,
  ⟨0x2C76, 0x2C76, 1, -0x1⟩, ⟨0x2C81, 0x2CE3, 2, -0x1⟩, ⟨0x2CEC, 0x2CEE, 2, -0x1⟩,
  ⟨0x2CF3, 0x2CF3, 1, -0x1⟩, ⟨0x2D00, 0x2D25, 1, -0x1C60⟩, ⟨0x2D27, 0x2D27, 1, -0x1C60⟩,
  ⟨0x2D2D, 0x2D2D, 1, -0x1C60⟩, ⟨0xA641, 0xA66D, 2, -0x1⟩, ⟨0xA681, 0xA69B, 2, -0x1⟩,
  ⟨0xA723, 0xA72F, 2, -0x1⟩, ⟨0xA733, 0xA76F, 2, -0x1⟩, ⟨0xA77A, 0xA77C, 2, -0x1⟩,
  ⟨0xA77F, 0xA787, 2, -0x1⟩, ⟨0xA78C, 0xA78C, 1, -0x1⟩, ⟨0xA791, 0xA793, 2, -0x1⟩,
  ⟨0xA794, 0xA794, 1, 0x30⟩, ⟨0xA797, 0xA7A9, 2, -0x1⟩, ⟨0xA7B5, 0xA7C3, 2, -0x1⟩,
  ⟨0xA7C8, 0xA7CA, 2, -0x1⟩, ⟨0xA7D1, 0xA7D1, 1, -0x1⟩, ⟨0xA7D7, 0xA7D9, 2, -0x1⟩,
  ⟨0xA7F6, 0xA7F6, 1, -0x1⟩, ⟨0xAB53, 0xAB53, 1, -0x3A0⟩, ⟨0xAB70, 0xABBF, 1, -0x97D0⟩,
  ⟨0xFF41, 0xFF5A, 1, -0x20⟩, ⟨0x10428, 0x1044F, 1, -0x28⟩, ⟨0x104D8, 0x104FB, 1, -0x28⟩,
  ⟨0x10597, 0x105BB, 2, -0x27⟩, ⟨0x10598, 0x105A0, 2, -0x27⟩, ⟨0x105A4, 0x105B0, 2, -0x27⟩,
  ⟨0x105B4, 0x105B8, 2, -0x27⟩, ⟨0x105BC, 0x105BC, 1, -0x27⟩, ⟨0x10CC0, 0x10CF2, 1, -0x40⟩,
  ⟨0x118C0, 0x118DF, 1, -0x20⟩, ⟨0x16E60, 0x16E7F, 1, -0x20⟩, ⟨0x1E922, 0x1E943, 1, -0x22⟩]

/-- The letters that expand. -/
def caseExpansions : Array CaseExpansion := #[
  ⟨0xDF, "SS"⟩, ⟨0x130, "I\u0307"⟩, ⟨0x149, "\u02bcN"⟩, ⟨0x1F0, "J\u030c"⟩,
  ⟨0x390, "\u0399\u0308\u0301"⟩, ⟨0x3B0, "\u03a5\u0308\u0301"⟩, ⟨0x587, "\u0535\u0552"⟩,
  ⟨0x1E96, "H\u0331"⟩, ⟨0x1E97, "T\u0308"⟩, ⟨0x1E98, "W\u030a"⟩, ⟨0x1E99, "Y\u030a"⟩,
  ⟨0x1E9A, "A\u02be"⟩, ⟨0x1E9E, "SS"⟩, ⟨0x1F50, "\u03a5\u0313"⟩, ⟨0x1F52, "\u03a5\u0313\u0300"⟩,
  ⟨0x1F54, "\u03a5\u0313\u0301"⟩, ⟨0x1F56, "\u03a5\u0313\u0342"⟩, ⟨0x1F80, "\u1f08\u0399"⟩,
  ⟨0x1F81, "\u1f09\u0399"⟩, ⟨0x1F82, "\u1f0a\u0399"⟩, ⟨0x1F83, "\u1f0b\u0399"⟩,
  ⟨0x1F84, "\u1f0c\u0399"⟩, ⟨0x1F85, "\u1f0d\u0399"⟩, ⟨0x1F86, "\u1f0e\u0399"⟩,
  ⟨0x1F87, "\u1f0f\u0399"⟩, ⟨0x1F88, "\u1f08\u0399"⟩, ⟨0x1F89, "\u1f09\u0399"⟩,
  ⟨0x1F8A, "\u1f0a\u0399"⟩, ⟨0x1F8B, "\u1f0b\u0399"⟩, ⟨0x1F8C, "\u1f0c\u0399"⟩,
  ⟨0x1F8D, "\u1f0d\u0399"⟩, ⟨0x1F8E, "\u1f0e\u0399"⟩, ⟨0x1F8F, "\u1f0f\u0399"⟩,
  ⟨0x1F90, "\u1f28\u0399"⟩, ⟨0x1F91, "\u1f29\u0399"⟩, ⟨0x1F92, "\u1f2a\u0399"⟩,
  ⟨0x1F93, "\u1f2b\u0399"⟩, ⟨0x1F94, "\u1f2c\u0399"⟩, ⟨0x1F95, "\u1f2d\u0399"⟩,
  ⟨0x1F96, "\u1f2e\u0399"⟩, ⟨0x1F97, "\u1f2f\u0399"⟩, ⟨0x1F98, "\u1f28\u0399"⟩,
  ⟨0x1F99, "\u1f29\u0399"⟩, ⟨0x1F9A, "\u1f2a\u0399"⟩, ⟨0x1F9B, "\u1f2b\u0399"⟩,
  ⟨0x1F9C, "\u1f2c\u0399"⟩, ⟨0x1F9D, "\u1f2d\u0399"⟩, ⟨0x1F9E, "\u1f2e\u0399"⟩,
  ⟨0x1F9F, "\u1f2f\u0399"⟩, ⟨0x1FA0, "\u1f68\u0399"⟩, ⟨0x1FA1, "\u1f69\u0399"⟩,
  ⟨0x1FA2, "\u1f6a\u0399"⟩, ⟨0x1FA3, "\u1f6b\u0399"⟩, ⟨0x1FA4, "\u1f6c\u0399"⟩,
  ⟨0x1FA5, "\u1f6d\u0399"⟩, ⟨0x1FA6, "\u1f6e\u0399"⟩, ⟨0x1FA7, "\u1f6f\u0399"⟩,
  ⟨0x1FA8, "\u1f68\u0399"⟩, ⟨0x1FA9, "\u1f69\u0399"⟩, ⟨0x1FAA, "\u1f6a\u0399"⟩,
  ⟨0x1FAB, "\u1f6b\u0399"⟩, ⟨0x1FAC, "\u1f6c\u0399"⟩, ⟨0x1FAD, "\u1f6d\u0399"⟩,
  ⟨0x1FAE, "\u1f6e\u0399"⟩, ⟨0x1FAF, "\u1f6f\u0399"⟩, ⟨0x1FB2, "\u1fba\u0399"⟩,
  ⟨0x1FB3, "\u0391\u0399"⟩, ⟨0x1FB4, "\u0386\u0399"⟩, ⟨0x1FB6, "\u0391\u0342"⟩,
  ⟨0x1FB7, "\u0391\u0342\u0399"⟩, ⟨0x1FBC, "\u0391\u0399"⟩, ⟨0x1FC2, "\u1fca\u0399"⟩,
  ⟨0x1FC3, "\u0397\u0399"⟩, ⟨0x1FC4, "\u0389\u0399"⟩, ⟨0x1FC6, "\u0397\u0342"⟩,
  ⟨0x1FC7, "\u0397\u0342\u0399"⟩, ⟨0x1FCC, "\u0397\u0399"⟩, ⟨0x1FD2, "\u0399\u0308\u0300"⟩,
  ⟨0x1FD3, "\u0399\u0308\u0301"⟩, ⟨0x1FD6, "\u0399\u0342"⟩, ⟨0x1FD7, "\u0399\u0308\u0342"⟩,
  ⟨0x1FE2, "\u03a5\u0308\u0300"⟩, ⟨0x1FE3, "\u03a5\u0308\u0301"⟩, ⟨0x1FE4, "\u03a1\u0313"⟩,
  ⟨0x1FE6, "\u03a5\u0342"⟩, ⟨0x1FE7, "\u03a5\u0308\u0342"⟩, ⟨0x1FF2, "\u1ffa\u0399"⟩,
  ⟨0x1FF3, "\u03a9\u0399"⟩, ⟨0x1FF4, "\u038f\u0399"⟩, ⟨0x1FF6, "\u03a9\u0342"⟩,
  ⟨0x1FF7, "\u03a9\u0342\u0399"⟩, ⟨0x1FFC, "\u03a9\u0399"⟩, ⟨0xFB00, "FF"⟩, ⟨0xFB01, "FI"⟩,
  ⟨0xFB02, "FL"⟩, ⟨0xFB03, "FFI"⟩, ⟨0xFB04, "FFL"⟩, ⟨0xFB05, "ST"⟩, ⟨0xFB06, "ST"⟩,
  ⟨0xFB13, "\u0544\u0546"⟩, ⟨0xFB14, "\u0544\u0535"⟩, ⟨0xFB15, "\u0544\u053b"⟩,
  ⟨0xFB16, "\u054e\u0546"⟩, ⟨0xFB17, "\u0544\u053d"⟩]

/-- A character without its letter case. -/
def foldChar (c : Char) : List Char :=
  let n := c.toNat
  match caseSeries.find? fun series =>
      series.first ≤ n && n ≤ series.last && (n - series.first) % series.step == 0 with
  | some series => [Char.ofNat (n + series.shift).toNat]
  | none =>
    match caseExpansions.find? (·.letter == n) with
    | some expansion => expansion.text.toList
    | none => [c]

/-- A text without its letter case. -/
def foldCase (s : List Char) : List Char := s.flatMap foldChar

end LiveDeck.Text
