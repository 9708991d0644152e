import NodeSupply.Text.Table

/-!
# Parts of characters

The texts that some characters are equivalent to: a letter and its marks, or another form of the
same character.  The texts are taken apart as far as can be, with the marks in order.  The syllables
of Hangul are not in the tables, since their parts can be counted off.

## Main definitions

* `Text.composites` : the characters that their parts are put together to.
* `Text.unjoined` : the characters that are only taken apart.
-/

namespace NodeSupply.Text

/-- The characters with a canonical decomposition that are put together from it. -/
def composites : Table :=
  [⟨0xc0, 0xc5, "A\u0300 A\u0301 A\u0302 A\u0303 A\u0308 A\u030a"⟩,
   ⟨0xc7, 0xcf, "C\u0327 E\u0300 E\u0301 E\u0302 E\u0308 I\u0300 I\u0301 I\u0302 I\u0308"⟩,
   ⟨0xd1, 0xd6, "N\u0303 O\u0300 O\u0301 O\u0302 O\u0303 O\u0308"⟩,
   ⟨0xd9, 0xdd, "U\u0300 U\u0301 U\u0302 U\u0308 Y\u0301"⟩,
   ⟨0xe0, 0xe5, "a\u0300 a\u0301 a\u0302 a\u0303 a\u0308 a\u030a"⟩,
   ⟨0xe7, 0xef, "c\u0327 e\u0300 e\u0301 e\u0302 e\u0308 i\u0300 i\u0301 i\u0302 i\u0308"⟩,
   ⟨0xf1, 0xf6, "n\u0303 o\u0300 o\u0301 o\u0302 o\u0303 o\u0308"⟩,
   ⟨0xf9, 0xfd, "u\u0300 u\u0301 u\u0302 u\u0308 y\u0301"⟩,
   ⟨0xff, 0x107, "y\u0308 A\u0304 a\u0304 A\u0306 a\u0306 A\u0328 a\u0328 C\u0301 c\u0301"⟩,
   ⟨0x108, 0x10f, "C\u0302 c\u0302 C\u0307 c\u0307 C\u030c c\u030c D\u030c d\u030c"⟩,
   ⟨0x112, 0x11a, "E\u0304 e\u0304 E\u0306 e\u0306 E\u0307 e\u0307 E\u0328 e\u0328 E\u030c"⟩,
   ⟨0x11b, 0x123, "e\u030c G\u0302 g\u0302 G\u0306 g\u0306 G\u0307 g\u0307 G\u0327 g\u0327"⟩,
   ⟨0x124, 0x125, "H\u0302 h\u0302"⟩,
   ⟨0x128, 0x130, "I\u0303 i\u0303 I\u0304 i\u0304 I\u0306 i\u0306 I\u0328 i\u0328 I\u0307"⟩,
   ⟨0x134, 0x137, "J\u0302 j\u0302 K\u0327 k\u0327"⟩,
   ⟨0x139, 0x13e, "L\u0301 l\u0301 L\u0327 l\u0327 L\u030c l\u030c"⟩,
   ⟨0x143, 0x148, "N\u0301 n\u0301 N\u0327 n\u0327 N\u030c n\u030c"⟩,
   ⟨0x14c, 0x151, "O\u0304 o\u0304 O\u0306 o\u0306 O\u030b o\u030b"⟩,
   ⟨0x154, 0x15c, "R\u0301 r\u0301 R\u0327 r\u0327 R\u030c r\u030c S\u0301 s\u0301 S\u0302"⟩,
   ⟨0x15d, 0x165, "s\u0302 S\u0327 s\u0327 S\u030c s\u030c T\u0327 t\u0327 T\u030c t\u030c"⟩,
   ⟨0x168, 0x170, "U\u0303 u\u0303 U\u0304 u\u0304 U\u0306 u\u0306 U\u030a u\u030a U\u030b"⟩,
   ⟨0x171, 0x179, "u\u030b U\u0328 u\u0328 W\u0302 w\u0302 Y\u0302 y\u0302 Y\u0308 Z\u0301"⟩,
   ⟨0x17a, 0x17e, "z\u0301 Z\u0307 z\u0307 Z\u030c z\u030c"⟩, ⟨0x1a0, 0x1a1, "O\u031b o\u031b"⟩,
   ⟨0x1af, 0x1b0, "U\u031b u\u031b"⟩,
   ⟨0x1cd, 0x1d5, "A\u030c a\u030c I\u030c i\u030c O\u030c o\u030c U\u030c u\u030c U\u0308\u0304"⟩,
   ⟨0x1d6, 0x1da, "u\u0308\u0304 U\u0308\u0301 u\u0308\u0301 U\u0308\u030c u\u0308\u030c"⟩,
   ⟨0x1db, 0x1dc, "U\u0308\u0300 u\u0308\u0300"⟩,
   ⟨0x1de, 0x1e3, "A\u0308\u0304 a\u0308\u0304 A\u0307\u0304 a\u0307\u0304 Æ\u0304 æ\u0304"⟩,
   ⟨0x1e6, 0x1ed, "G\u030c g\u030c K\u030c k\u030c O\u0328 o\u0328 O\u0328\u0304 o\u0328\u0304"⟩,
   ⟨0x1ee, 0x1f0, "Ʒ\u030c ʒ\u030c j\u030c"⟩, ⟨0x1f4, 0x1f5, "G\u0301 g\u0301"⟩,
   ⟨0x1f8, 0x1ff, "N\u0300 n\u0300 A\u030a\u0301 a\u030a\u0301 Æ\u0301 æ\u0301 Ø\u0301 ø\u0301"⟩,
   ⟨0x200, 0x208, "A\u030f a\u030f A\u0311 a\u0311 E\u030f e\u030f E\u0311 e\u0311 I\u030f"⟩,
   ⟨0x209, 0x211, "i\u030f I\u0311 i\u0311 O\u030f o\u030f O\u0311 o\u0311 R\u030f r\u030f"⟩,
   ⟨0x212, 0x21a, "R\u0311 r\u0311 U\u030f u\u030f U\u0311 u\u0311 S\u0326 s\u0326 T\u0326"⟩,
   ⟨0x21b, 0x21b, "t\u0326"⟩, ⟨0x21e, 0x21f, "H\u030c h\u030c"⟩,
   ⟨0x226, 0x22c, "A\u0307 a\u0307 E\u0327 e\u0327 O\u0308\u0304 o\u0308\u0304 O\u0303\u0304"⟩,
   ⟨0x22d, 0x233, "o\u0303\u0304 O\u0307 o\u0307 O\u0307\u0304 o\u0307\u0304 Y\u0304 y\u0304"⟩,
   ⟨0x385, 0x386, "¨\u0301 Α\u0301"⟩, ⟨0x388, 0x38a, "Ε\u0301 Η\u0301 Ι\u0301"⟩,
   ⟨0x38c, 0x38c, "Ο\u0301"⟩, ⟨0x38e, 0x390, "Υ\u0301 Ω\u0301 ι\u0308\u0301"⟩,
   ⟨0x3aa, 0x3b0, "Ι\u0308 Υ\u0308 α\u0301 ε\u0301 η\u0301 ι\u0301 υ\u0308\u0301"⟩,
   ⟨0x3ca, 0x3ce, "ι\u0308 υ\u0308 ο\u0301 υ\u0301 ω\u0301"⟩, ⟨0x3d3, 0x3d4, "ϒ\u0301 ϒ\u0308"⟩,
   ⟨0x400, 0x401, "Е\u0300 Е\u0308"⟩, ⟨0x403, 0x403, "Г\u0301"⟩, ⟨0x407, 0x407, "І\u0308"⟩,
   ⟨0x40c, 0x40e, "К\u0301 И\u0300 У\u0306"⟩, ⟨0x419, 0x419, "И\u0306"⟩, ⟨0x439, 0x439, "и\u0306"⟩,
   ⟨0x450, 0x451, "е\u0300 е\u0308"⟩, ⟨0x453, 0x453, "г\u0301"⟩, ⟨0x457, 0x457, "і\u0308"⟩,
   ⟨0x45c, 0x45e, "к\u0301 и\u0300 у\u0306"⟩, ⟨0x476, 0x477, "Ѵ\u030f ѵ\u030f"⟩,
   ⟨0x4c1, 0x4c2, "Ж\u0306 ж\u0306"⟩, ⟨0x4d0, 0x4d3, "А\u0306 а\u0306 А\u0308 а\u0308"⟩,
   ⟨0x4d6, 0x4d7, "Е\u0306 е\u0306"⟩,
   ⟨0x4da, 0x4df, "Ә\u0308 ә\u0308 Ж\u0308 ж\u0308 З\u0308 з\u0308"⟩,
   ⟨0x4e2, 0x4e7, "И\u0304 и\u0304 И\u0308 и\u0308 О\u0308 о\u0308"⟩,
   ⟨0x4ea, 0x4f2, "Ө\u0308 ө\u0308 Э\u0308 э\u0308 У\u0304 у\u0304 У\u0308 у\u0308 У\u030b"⟩,
   ⟨0x4f3, 0x4f5, "у\u030b Ч\u0308 ч\u0308"⟩, ⟨0x4f8, 0x4f9, "Ы\u0308 ы\u0308"⟩,
   ⟨0x622, 0x626, "\u0627\u0653 \u0627\u0654 \u0648\u0654 \u0627\u0655 \u064a\u0654"⟩,
   ⟨0x6c0, 0x6c0, "\u06d5\u0654"⟩, ⟨0x6c2, 0x6c2, "\u06c1\u0654"⟩, ⟨0x6d3, 0x6d3, "\u06d2\u0654"⟩,
   ⟨0x929, 0x929, "न\u093c"⟩, ⟨0x931, 0x931, "र\u093c"⟩, ⟨0x934, 0x934, "ळ\u093c"⟩,
   ⟨0x9cb, 0x9cc, "\u09c7\u09be \u09c7\u09d7"⟩, ⟨0xb48, 0xb48, "\u0b47\u0b56"⟩,
   ⟨0xb4b, 0xb4c, "\u0b47\u0b3e \u0b47\u0b57"⟩, ⟨0xb94, 0xb94, "ஒ\u0bd7"⟩,
   ⟨0xbca, 0xbcc, "\u0bc6\u0bbe \u0bc7\u0bbe \u0bc6\u0bd7"⟩, ⟨0xc48, 0xc48, "\u0c46\u0c56"⟩,
   ⟨0xcc0, 0xcc0, "\u0cbf\u0cd5"⟩, ⟨0xcc7, 0xcc8, "\u0cc6\u0cd5 \u0cc6\u0cd6"⟩,
   ⟨0xcca, 0xccb, "\u0cc6\u0cc2 \u0cc6\u0cc2\u0cd5"⟩,
   ⟨0xd4a, 0xd4c, "\u0d46\u0d3e \u0d47\u0d3e \u0d46\u0d57"⟩, ⟨0xdda, 0xdda, "\u0dd9\u0dca"⟩,
   ⟨0xddc, 0xdde, "\u0dd9\u0dcf \u0dd9\u0dcf\u0dca \u0dd9\u0ddf"⟩, ⟨0x1026, 0x1026, "ဥ\u102e"⟩,
   ⟨0x1b06, 0x1b06, "ᬅ\u1b35"⟩, ⟨0x1b08, 0x1b08, "ᬇ\u1b35"⟩, ⟨0x1b0a, 0x1b0a, "ᬉ\u1b35"⟩,
   ⟨0x1b0c, 0x1b0c, "ᬋ\u1b35"⟩, ⟨0x1b0e, 0x1b0e, "ᬍ\u1b35"⟩, ⟨0x1b12, 0x1b12, "ᬑ\u1b35"⟩,
   ⟨0x1b3b, 0x1b3b, "\u1b3a\u1b35"⟩, ⟨0x1b3d, 0x1b3d, "\u1b3c\u1b35"⟩,
   ⟨0x1b40, 0x1b41, "\u1b3e\u1b35 \u1b3f\u1b35"⟩, ⟨0x1b43, 0x1b43, "\u1b42\u1b35"⟩,
   ⟨0x1e00, 0x1e07, "A\u0325 a\u0325 B\u0307 b\u0307 B\u0323 b\u0323 B\u0331 b\u0331"⟩,
   ⟨0x1e08, 0x1e0f, "C\u0327\u0301 c\u0327\u0301 D\u0307 d\u0307 D\u0323 d\u0323 D\u0331 d\u0331"⟩,
   ⟨0x1e10, 0x1e16, "D\u0327 d\u0327 D\u032d d\u032d E\u0304\u0300 e\u0304\u0300 E\u0304\u0301"⟩,
   ⟨0x1e17, 0x1e1d, "e\u0304\u0301 E\u032d e\u032d E\u0330 e\u0330 E\u0327\u0306 e\u0327\u0306"⟩,
   ⟨0x1e1e, 0x1e26, "F\u0307 f\u0307 G\u0304 g\u0304 H\u0307 h\u0307 H\u0323 h\u0323 H\u0308"⟩,
   ⟨0x1e27, 0x1e2e, "h\u0308 H\u0327 h\u0327 H\u032e h\u032e I\u0330 i\u0330 I\u0308\u0301"⟩,
   ⟨0x1e2f, 0x1e36, "i\u0308\u0301 K\u0301 k\u0301 K\u0323 k\u0323 K\u0331 k\u0331 L\u0323"⟩,
   ⟨0x1e37, 0x1e3e, "l\u0323 L\u0323\u0304 l\u0323\u0304 L\u0331 l\u0331 L\u032d l\u032d M\u0301"⟩,
   ⟨0x1e3f, 0x1e47, "m\u0301 M\u0307 m\u0307 M\u0323 m\u0323 N\u0307 n\u0307 N\u0323 n\u0323"⟩,
   ⟨0x1e48, 0x1e4e, "N\u0331 n\u0331 N\u032d n\u032d O\u0303\u0301 o\u0303\u0301 O\u0303\u0308"⟩,
   ⟨0x1e4f, 0x1e53, "o\u0303\u0308 O\u0304\u0300 o\u0304\u0300 O\u0304\u0301 o\u0304\u0301"⟩,
   ⟨0x1e54, 0x1e5b, "P\u0301 p\u0301 P\u0307 p\u0307 R\u0307 r\u0307 R\u0323 r\u0323"⟩,
   ⟨0x1e5c, 0x1e63, "R\u0323\u0304 r\u0323\u0304 R\u0331 r\u0331 S\u0307 s\u0307 S\u0323 s\u0323"⟩,
   ⟨0x1e64, 0x1e68, "S\u0301\u0307 s\u0301\u0307 S\u030c\u0307 s\u030c\u0307 S\u0323\u0307"⟩,
   ⟨0x1e69, 0x1e70, "s\u0323\u0307 T\u0307 t\u0307 T\u0323 t\u0323 T\u0331 t\u0331 T\u032d"⟩,
   ⟨0x1e71, 0x1e78, "t\u032d U\u0324 u\u0324 U\u0330 u\u0330 U\u032d u\u032d U\u0303\u0301"⟩,
   ⟨0x1e79, 0x1e7f, "u\u0303\u0301 U\u0304\u0308 u\u0304\u0308 V\u0303 v\u0303 V\u0323 v\u0323"⟩,
   ⟨0x1e80, 0x1e88, "W\u0300 w\u0300 W\u0301 w\u0301 W\u0308 w\u0308 W\u0307 w\u0307 W\u0323"⟩,
   ⟨0x1e89, 0x1e91, "w\u0323 X\u0307 x\u0307 X\u0308 x\u0308 Y\u0307 y\u0307 Z\u0302 z\u0302"⟩,
   ⟨0x1e92, 0x1e99, "Z\u0323 z\u0323 Z\u0331 z\u0331 h\u0331 t\u0308 w\u030a y\u030a"⟩,
   ⟨0x1e9b, 0x1e9b, "ſ\u0307"⟩,
   ⟨0x1ea0, 0x1ea6, "A\u0323 a\u0323 A\u0309 a\u0309 A\u0302\u0301 a\u0302\u0301 A\u0302\u0300"⟩,
   ⟨0x1ea7, 0x1eab, "a\u0302\u0300 A\u0302\u0309 a\u0302\u0309 A\u0302\u0303 a\u0302\u0303"⟩,
   ⟨0x1eac, 0x1eb0, "A\u0323\u0302 a\u0323\u0302 A\u0306\u0301 a\u0306\u0301 A\u0306\u0300"⟩,
   ⟨0x1eb1, 0x1eb5, "a\u0306\u0300 A\u0306\u0309 a\u0306\u0309 A\u0306\u0303 a\u0306\u0303"⟩,
   ⟨0x1eb6, 0x1ebd, "A\u0323\u0306 a\u0323\u0306 E\u0323 e\u0323 E\u0309 e\u0309 E\u0303 e\u0303"⟩,
   ⟨0x1ebe, 0x1ec2, "E\u0302\u0301 e\u0302\u0301 E\u0302\u0300 e\u0302\u0300 E\u0302\u0309"⟩,
   ⟨0x1ec3, 0x1ec7, "e\u0302\u0309 E\u0302\u0303 e\u0302\u0303 E\u0323\u0302 e\u0323\u0302"⟩,
   ⟨0x1ec8, 0x1ecf, "I\u0309 i\u0309 I\u0323 i\u0323 O\u0323 o\u0323 O\u0309 o\u0309"⟩,
   ⟨0x1ed0, 0x1ed4, "O\u0302\u0301 o\u0302\u0301 O\u0302\u0300 o\u0302\u0300 O\u0302\u0309"⟩,
   ⟨0x1ed5, 0x1ed9, "o\u0302\u0309 O\u0302\u0303 o\u0302\u0303 O\u0323\u0302 o\u0323\u0302"⟩,
   ⟨0x1eda, 0x1ede, "O\u031b\u0301 o\u031b\u0301 O\u031b\u0300 o\u031b\u0300 O\u031b\u0309"⟩,
   ⟨0x1edf, 0x1ee3, "o\u031b\u0309 O\u031b\u0303 o\u031b\u0303 O\u031b\u0323 o\u031b\u0323"⟩,
   ⟨0x1ee4, 0x1eea, "U\u0323 u\u0323 U\u0309 u\u0309 U\u031b\u0301 u\u031b\u0301 U\u031b\u0300"⟩,
   ⟨0x1eeb, 0x1eef, "u\u031b\u0300 U\u031b\u0309 u\u031b\u0309 U\u031b\u0303 u\u031b\u0303"⟩,
   ⟨0x1ef0, 0x1ef7, "U\u031b\u0323 u\u031b\u0323 Y\u0300 y\u0300 Y\u0323 y\u0323 Y\u0309 y\u0309"⟩,
   ⟨0x1ef8, 0x1ef9, "Y\u0303 y\u0303"⟩,
   ⟨0x1f00, 0x1f05, "α\u0313 α\u0314 α\u0313\u0300 α\u0314\u0300 α\u0313\u0301 α\u0314\u0301"⟩,
   ⟨0x1f06, 0x1f0b, "α\u0313\u0342 α\u0314\u0342 Α\u0313 Α\u0314 Α\u0313\u0300 Α\u0314\u0300"⟩,
   ⟨0x1f0c, 0x1f11, "Α\u0313\u0301 Α\u0314\u0301 Α\u0313\u0342 Α\u0314\u0342 ε\u0313 ε\u0314"⟩,
   ⟨0x1f12, 0x1f15, "ε\u0313\u0300 ε\u0314\u0300 ε\u0313\u0301 ε\u0314\u0301"⟩,
   ⟨0x1f18, 0x1f1d, "Ε\u0313 Ε\u0314 Ε\u0313\u0300 Ε\u0314\u0300 Ε\u0313\u0301 Ε\u0314\u0301"⟩,
   ⟨0x1f20, 0x1f25, "η\u0313 η\u0314 η\u0313\u0300 η\u0314\u0300 η\u0313\u0301 η\u0314\u0301"⟩,
   ⟨0x1f26, 0x1f2b, "η\u0313\u0342 η\u0314\u0342 Η\u0313 Η\u0314 Η\u0313\u0300 Η\u0314\u0300"⟩,
   ⟨0x1f2c, 0x1f31, "Η\u0313\u0301 Η\u0314\u0301 Η\u0313\u0342 Η\u0314\u0342 ι\u0313 ι\u0314"⟩,
   ⟨0x1f32, 0x1f36, "ι\u0313\u0300 ι\u0314\u0300 ι\u0313\u0301 ι\u0314\u0301 ι\u0313\u0342"⟩,
   ⟨0x1f37, 0x1f3c, "ι\u0314\u0342 Ι\u0313 Ι\u0314 Ι\u0313\u0300 Ι\u0314\u0300 Ι\u0313\u0301"⟩,
   ⟨0x1f3d, 0x1f42, "Ι\u0314\u0301 Ι\u0313\u0342 Ι\u0314\u0342 ο\u0313 ο\u0314 ο\u0313\u0300"⟩,
   ⟨0x1f43, 0x1f45, "ο\u0314\u0300 ο\u0313\u0301 ο\u0314\u0301"⟩,
   ⟨0x1f48, 0x1f4d, "Ο\u0313 Ο\u0314 Ο\u0313\u0300 Ο\u0314\u0300 Ο\u0313\u0301 Ο\u0314\u0301"⟩,
   ⟨0x1f50, 0x1f55, "υ\u0313 υ\u0314 υ\u0313\u0300 υ\u0314\u0300 υ\u0313\u0301 υ\u0314\u0301"⟩,
   ⟨0x1f56, 0x1f57, "υ\u0313\u0342 υ\u0314\u0342"⟩, ⟨0x1f59, 0x1f59, "Υ\u0314"⟩,
   ⟨0x1f5b, 0x1f5b, "Υ\u0314\u0300"⟩, ⟨0x1f5d, 0x1f5d, "Υ\u0314\u0301"⟩,
   ⟨0x1f5f, 0x1f64, "Υ\u0314\u0342 ω\u0313 ω\u0314 ω\u0313\u0300 ω\u0314\u0300 ω\u0313\u0301"⟩,
   ⟨0x1f65, 0x1f6a, "ω\u0314\u0301 ω\u0313\u0342 ω\u0314\u0342 Ω\u0313 Ω\u0314 Ω\u0313\u0300"⟩,
   ⟨0x1f6b, 0x1f6f, "Ω\u0314\u0300 Ω\u0313\u0301 Ω\u0314\u0301 Ω\u0313\u0342 Ω\u0314\u0342"⟩,
   ⟨0x1f70, 0x1f70, "α\u0300"⟩, ⟨0x1f72, 0x1f72, "ε\u0300"⟩, ⟨0x1f74, 0x1f74, "η\u0300"⟩,
   ⟨0x1f76, 0x1f76, "ι\u0300"⟩, ⟨0x1f78, 0x1f78, "ο\u0300"⟩, ⟨0x1f7a, 0x1f7a, "υ\u0300"⟩,
   ⟨0x1f7c, 0x1f7c, "ω\u0300"⟩,
   ⟨0x1f80, 0x1f83, "α\u0313\u0345 α\u0314\u0345 α\u0313\u0300\u0345 α\u0314\u0300\u0345"⟩,
   ⟨0x1f84, 0x1f86, "α\u0313\u0301\u0345 α\u0314\u0301\u0345 α\u0313\u0342\u0345"⟩,
   ⟨0x1f87, 0x1f8a, "α\u0314\u0342\u0345 Α\u0313\u0345 Α\u0314\u0345 Α\u0313\u0300\u0345"⟩,
   ⟨0x1f8b, 0x1f8d, "Α\u0314\u0300\u0345 Α\u0313\u0301\u0345 Α\u0314\u0301\u0345"⟩,
   ⟨0x1f8e, 0x1f91, "Α\u0313\u0342\u0345 Α\u0314\u0342\u0345 η\u0313\u0345 η\u0314\u0345"⟩,
   ⟨0x1f92, 0x1f94, "η\u0313\u0300\u0345 η\u0314\u0300\u0345 η\u0313\u0301\u0345"⟩,
   ⟨0x1f95, 0x1f98, "η\u0314\u0301\u0345 η\u0313\u0342\u0345 η\u0314\u0342\u0345 Η\u0313\u0345"⟩,
   ⟨0x1f99, 0x1f9c, "Η\u0314\u0345 Η\u0313\u0300\u0345 Η\u0314\u0300\u0345 Η\u0313\u0301\u0345"⟩,
   ⟨0x1f9d, 0x1fa0, "Η\u0314\u0301\u0345 Η\u0313\u0342\u0345 Η\u0314\u0342\u0345 ω\u0313\u0345"⟩,
   ⟨0x1fa1, 0x1fa4, "ω\u0314\u0345 ω\u0313\u0300\u0345 ω\u0314\u0300\u0345 ω\u0313\u0301\u0345"⟩,
   ⟨0x1fa5, 0x1fa8, "ω\u0314\u0301\u0345 ω\u0313\u0342\u0345 ω\u0314\u0342\u0345 Ω\u0313\u0345"⟩,
   ⟨0x1fa9, 0x1fac, "Ω\u0314\u0345 Ω\u0313\u0300\u0345 Ω\u0314\u0300\u0345 Ω\u0313\u0301\u0345"⟩,
   ⟨0x1fad, 0x1fb1, "Ω\u0314\u0301\u0345 Ω\u0313\u0342\u0345 Ω\u0314\u0342\u0345 α\u0306 α\u0304"⟩,
   ⟨0x1fb2, 0x1fb4, "α\u0300\u0345 α\u0345 α\u0301\u0345"⟩,
   ⟨0x1fb6, 0x1fba, "α\u0342 α\u0342\u0345 Α\u0306 Α\u0304 Α\u0300"⟩, ⟨0x1fbc, 0x1fbc, "Α\u0345"⟩,
   ⟨0x1fc1, 0x1fc4, "¨\u0342 η\u0300\u0345 η\u0345 η\u0301\u0345"⟩,
   ⟨0x1fc6, 0x1fc8, "η\u0342 η\u0342\u0345 Ε\u0300"⟩, ⟨0x1fca, 0x1fca, "Η\u0300"⟩,
   ⟨0x1fcc, 0x1fd2, "Η\u0345 ᾿\u0300 ᾿\u0301 ᾿\u0342 ι\u0306 ι\u0304 ι\u0308\u0300"⟩,
   ⟨0x1fd6, 0x1fda, "ι\u0342 ι\u0308\u0342 Ι\u0306 Ι\u0304 Ι\u0300"⟩,
   ⟨0x1fdd, 0x1fe2, "῾\u0300 ῾\u0301 ῾\u0342 υ\u0306 υ\u0304 υ\u0308\u0300"⟩,
   ⟨0x1fe4, 0x1fea, "ρ\u0313 ρ\u0314 υ\u0342 υ\u0308\u0342 Υ\u0306 Υ\u0304 Υ\u0300"⟩,
   ⟨0x1fec, 0x1fed, "Ρ\u0314 ¨\u0300"⟩, ⟨0x1ff2, 0x1ff4, "ω\u0300\u0345 ω\u0345 ω\u0301\u0345"⟩,
   ⟨0x1ff6, 0x1ff8, "ω\u0342 ω\u0342\u0345 Ο\u0300"⟩, ⟨0x1ffa, 0x1ffa, "Ω\u0300"⟩,
   ⟨0x1ffc, 0x1ffc, "Ω\u0345"⟩, ⟨0x219a, 0x219b, "←\u0338 →\u0338"⟩, ⟨0x21ae, 0x21ae, "↔\u0338"⟩,
   ⟨0x21cd, 0x21cf, "⇐\u0338 ⇔\u0338 ⇒\u0338"⟩, ⟨0x2204, 0x2204, "∃\u0338"⟩,
   ⟨0x2209, 0x2209, "∈\u0338"⟩, ⟨0x220c, 0x220c, "∋\u0338"⟩, ⟨0x2224, 0x2224, "∣\u0338"⟩,
   ⟨0x2226, 0x2226, "∥\u0338"⟩, ⟨0x2241, 0x2241, "∼\u0338"⟩, ⟨0x2244, 0x2244, "≃\u0338"⟩,
   ⟨0x2247, 0x2247, "≅\u0338"⟩, ⟨0x2249, 0x2249, "≈\u0338"⟩, ⟨0x2260, 0x2260, "=\u0338"⟩,
   ⟨0x2262, 0x2262, "≡\u0338"⟩, ⟨0x226d, 0x2271, "≍\u0338 <\u0338 >\u0338 ≤\u0338 ≥\u0338"⟩,
   ⟨0x2274, 0x2275, "≲\u0338 ≳\u0338"⟩, ⟨0x2278, 0x2279, "≶\u0338 ≷\u0338"⟩,
   ⟨0x2280, 0x2281, "≺\u0338 ≻\u0338"⟩, ⟨0x2284, 0x2285, "⊂\u0338 ⊃\u0338"⟩,
   ⟨0x2288, 0x2289, "⊆\u0338 ⊇\u0338"⟩, ⟨0x22ac, 0x22af, "⊢\u0338 ⊨\u0338 ⊩\u0338 ⊫\u0338"⟩,
   ⟨0x22e0, 0x22e3, "≼\u0338 ≽\u0338 ⊑\u0338 ⊒\u0338"⟩,
   ⟨0x22ea, 0x22ed, "⊲\u0338 ⊳\u0338 ⊴\u0338 ⊵\u0338"⟩, ⟨0x304c, 0x304c, "か\u3099"⟩,
   ⟨0x304e, 0x304e, "き\u3099"⟩, ⟨0x3050, 0x3050, "く\u3099"⟩, ⟨0x3052, 0x3052, "け\u3099"⟩,
   ⟨0x3054, 0x3054, "こ\u3099"⟩, ⟨0x3056, 0x3056, "さ\u3099"⟩, ⟨0x3058, 0x3058, "し\u3099"⟩,
   ⟨0x305a, 0x305a, "す\u3099"⟩, ⟨0x305c, 0x305c, "せ\u3099"⟩, ⟨0x305e, 0x305e, "そ\u3099"⟩,
   ⟨0x3060, 0x3060, "た\u3099"⟩, ⟨0x3062, 0x3062, "ち\u3099"⟩, ⟨0x3065, 0x3065, "つ\u3099"⟩,
   ⟨0x3067, 0x3067, "て\u3099"⟩, ⟨0x3069, 0x3069, "と\u3099"⟩, ⟨0x3070, 0x3071, "は\u3099 は\u309a"⟩,
   ⟨0x3073, 0x3074, "ひ\u3099 ひ\u309a"⟩, ⟨0x3076, 0x3077, "ふ\u3099 ふ\u309a"⟩,
   ⟨0x3079, 0x307a, "へ\u3099 へ\u309a"⟩, ⟨0x307c, 0x307d, "ほ\u3099 ほ\u309a"⟩,
   ⟨0x3094, 0x3094, "う\u3099"⟩, ⟨0x309e, 0x309e, "ゝ\u3099"⟩, ⟨0x30ac, 0x30ac, "カ\u3099"⟩,
   ⟨0x30ae, 0x30ae, "キ\u3099"⟩, ⟨0x30b0, 0x30b0, "ク\u3099"⟩, ⟨0x30b2, 0x30b2, "ケ\u3099"⟩,
   ⟨0x30b4, 0x30b4, "コ\u3099"⟩, ⟨0x30b6, 0x30b6, "サ\u3099"⟩, ⟨0x30b8, 0x30b8, "シ\u3099"⟩,
   ⟨0x30ba, 0x30ba, "ス\u3099"⟩, ⟨0x30bc, 0x30bc, "セ\u3099"⟩, ⟨0x30be, 0x30be, "ソ\u3099"⟩,
   ⟨0x30c0, 0x30c0, "タ\u3099"⟩, ⟨0x30c2, 0x30c2, "チ\u3099"⟩, ⟨0x30c5, 0x30c5, "ツ\u3099"⟩,
   ⟨0x30c7, 0x30c7, "テ\u3099"⟩, ⟨0x30c9, 0x30c9, "ト\u3099"⟩, ⟨0x30d0, 0x30d1, "ハ\u3099 ハ\u309a"⟩,
   ⟨0x30d3, 0x30d4, "ヒ\u3099 ヒ\u309a"⟩, ⟨0x30d6, 0x30d7, "フ\u3099 フ\u309a"⟩,
   ⟨0x30d9, 0x30da, "ヘ\u3099 ヘ\u309a"⟩, ⟨0x30dc, 0x30dd, "ホ\u3099 ホ\u309a"⟩,
   ⟨0x30f4, 0x30f4, "ウ\u3099"⟩, ⟨0x30f7, 0x30fa, "ワ\u3099 ヰ\u3099 ヱ\u3099 ヲ\u3099"⟩,
   ⟨0x30fe, 0x30fe, "ヽ\u3099"⟩, ⟨0x105c9, 0x105c9, "𐗒\u0307"⟩, ⟨0x105e4, 0x105e4, "𐗚\u0307"⟩,
   ⟨0x1109a, 0x1109a, "𑂚"⟩, ⟨0x1109c, 0x1109c, "𑂜"⟩, ⟨0x110ab, 0x110ab, "𑂫"⟩,
   ⟨0x1112e, 0x1112f, "𑄮 𑄯"⟩, ⟨0x1134b, 0x1134c, "𑍋 𑍌"⟩, ⟨0x11383, 0x11383, "𑎃"⟩,
   ⟨0x11385, 0x11385, "𑎅"⟩, ⟨0x1138e, 0x1138e, "𑎎"⟩, ⟨0x11391, 0x11391, "𑎑"⟩,
   ⟨0x113c5, 0x113c5, "𑏅"⟩, ⟨0x113c7, 0x113c8, "𑏇 𑏈"⟩, ⟨0x114bb, 0x114bc, "𑒻 𑒼"⟩,
   ⟨0x114be, 0x114be, "𑒾"⟩, ⟨0x115ba, 0x115bb, "𑖺 𑖻"⟩, ⟨0x11938, 0x11938, "𑤸"⟩,
   ⟨0x16121, 0x16128, "𖄡 𖄢 𖄣 𖄤 𖄥 𖄦 𖄧 𖄨"⟩, ⟨0x16d68, 0x16d6a, "𖵨 𖵩 𖵪"⟩]

/-- The characters with a canonical decomposition that are not put together from it: those that are
only other forms of a character, those that begin with a mark, and those with the property
`Composition_Exclusion`. -/
def unjoined : Table :=
  [⟨0x340, 0x341, "\u0300 \u0301"⟩, ⟨0x343, 0x344, "\u0313 \u0308\u0301"⟩, ⟨0x374, 0x374, "ʹ"⟩,
   ⟨0x37e, 0x37e, ";"⟩, ⟨0x387, 0x387, "·"⟩,
   ⟨0x958, 0x95f, "क\u093c ख\u093c ग\u093c ज\u093c ड\u093c ढ\u093c फ\u093c य\u093c"⟩,
   ⟨0x9dc, 0x9dd, "ড\u09bc ঢ\u09bc"⟩, ⟨0x9df, 0x9df, "য\u09bc"⟩, ⟨0xa33, 0xa33, "ਲ\u0a3c"⟩,
   ⟨0xa36, 0xa36, "ਸ\u0a3c"⟩, ⟨0xa59, 0xa5b, "ਖ\u0a3c ਗ\u0a3c ਜ\u0a3c"⟩, ⟨0xa5e, 0xa5e, "ਫ\u0a3c"⟩,
   ⟨0xb5c, 0xb5d, "ଡ\u0b3c ଢ\u0b3c"⟩, ⟨0xf43, 0xf43, "ག\u0fb7"⟩, ⟨0xf4d, 0xf4d, "ཌ\u0fb7"⟩,
   ⟨0xf52, 0xf52, "ད\u0fb7"⟩, ⟨0xf57, 0xf57, "བ\u0fb7"⟩, ⟨0xf5c, 0xf5c, "ཛ\u0fb7"⟩,
   ⟨0xf69, 0xf69, "ཀ\u0fb5"⟩, ⟨0xf73, 0xf73, "\u0f71\u0f72"⟩,
   ⟨0xf75, 0xf76, "\u0f71\u0f74 \u0fb2\u0f80"⟩, ⟨0xf78, 0xf78, "\u0fb3\u0f80"⟩,
   ⟨0xf81, 0xf81, "\u0f71\u0f80"⟩, ⟨0xf93, 0xf93, "\u0f92\u0fb7"⟩, ⟨0xf9d, 0xf9d, "\u0f9c\u0fb7"⟩,
   ⟨0xfa2, 0xfa2, "\u0fa1\u0fb7"⟩, ⟨0xfa7, 0xfa7, "\u0fa6\u0fb7"⟩, ⟨0xfac, 0xfac, "\u0fab\u0fb7"⟩,
   ⟨0xfb9, 0xfb9, "\u0f90\u0fb5"⟩, ⟨0x1f71, 0x1f71, "α\u0301"⟩, ⟨0x1f73, 0x1f73, "ε\u0301"⟩,
   ⟨0x1f75, 0x1f75, "η\u0301"⟩, ⟨0x1f77, 0x1f77, "ι\u0301"⟩, ⟨0x1f79, 0x1f79, "ο\u0301"⟩,
   ⟨0x1f7b, 0x1f7b, "υ\u0301"⟩, ⟨0x1f7d, 0x1f7d, "ω\u0301"⟩, ⟨0x1fbb, 0x1fbb, "Α\u0301"⟩,
   ⟨0x1fbe, 0x1fbe, "ι"⟩, ⟨0x1fc9, 0x1fc9, "Ε\u0301"⟩, ⟨0x1fcb, 0x1fcb, "Η\u0301"⟩,
   ⟨0x1fd3, 0x1fd3, "ι\u0308\u0301"⟩, ⟨0x1fdb, 0x1fdb, "Ι\u0301"⟩,
   ⟨0x1fe3, 0x1fe3, "υ\u0308\u0301"⟩, ⟨0x1feb, 0x1feb, "Υ\u0301"⟩, ⟨0x1fee, 0x1fef, "¨\u0301 `"⟩,
   ⟨0x1ff9, 0x1ff9, "Ο\u0301"⟩, ⟨0x1ffb, 0x1ffb, "Ω\u0301"⟩, ⟨0x1ffd, 0x1ffd, "´"⟩,
   ⟨0x2000, 0x2001, "\u2002 \u2003"⟩, ⟨0x2126, 0x2126, "Ω"⟩, ⟨0x212a, 0x212b, "K A\u030a"⟩,
   ⟨0x2329, 0x232a, "〈 〉"⟩, ⟨0x2adc, 0x2adc, "⫝\u0338"⟩,
   ⟨0xf900, 0xf925, "豈 更 車 賈 滑 串 句 龜 龜 契 金 喇 奈 懶 癩 羅 蘿 螺 裸 邏 樂 洛 烙 珞 落 酪 駱 亂 卵 欄 爛 蘭 鸞 嵐 濫 藍 襤 拉"⟩,
   ⟨0xf926, 0xf94b, "臘 蠟 廊 朗 浪 狼 郎 來 冷 勞 擄 櫓 爐 盧 老 蘆 虜 路 露 魯 鷺 碌 祿 綠 菉 錄 鹿 論 壟 弄 籠 聾 牢 磊 賂 雷 壘 屢"⟩,
   ⟨0xf94c, 0xf971, "樓 淚 漏 累 縷 陋 勒 肋 凜 凌 稜 綾 菱 陵 讀 拏 樂 諾 丹 寧 怒 率 異 北 磻 便 復 不 泌 數 索 參 塞 省 葉 說 殺 辰"⟩,
   ⟨0xf972, 0xf997, "沈 拾 若 掠 略 亮 兩 凉 梁 糧 良 諒 量 勵 呂 女 廬 旅 濾 礪 閭 驪 麗 黎 力 曆 歷 轢 年 憐 戀 撚 漣 煉 璉 秊 練 聯"⟩,
   ⟨0xf998, 0xf9bd, "輦 蓮 連 鍊 列 劣 咽 烈 裂 說 廉 念 捻 殮 簾 獵 令 囹 寧 嶺 怜 玲 瑩 羚 聆 鈴 零 靈 領 例 禮 醴 隸 惡 了 僚 寮 尿"⟩,
   ⟨0xf9be, 0xf9e3, "料 樂 燎 療 蓼 遼 龍 暈 阮 劉 杻 柳 流 溜 琉 留 硫 紐 類 六 戮 陸 倫 崙 淪 輪 律 慄 栗 率 隆 利 吏 履 易 李 梨 泥"⟩,
   ⟨0xf9e4, 0xfa09, "理 痢 罹 裏 裡 里 離 匿 溺 吝 燐 璘 藺 隣 鱗 麟 林 淋 臨 立 笠 粒 狀 炙 識 什 茶 刺 切 度 拓 糖 宅 洞 暴 輻 行 降"⟩,
   ⟨0xfa0a, 0xfa0d, "見 廓 兀 嗀"⟩, ⟨0xfa10, 0xfa10, "塚"⟩, ⟨0xfa12, 0xfa12, "晴"⟩,
   ⟨0xfa15, 0xfa1e, "凞 猪 益 礼 神 祥 福 靖 精 羽"⟩, ⟨0xfa20, 0xfa20, "蘒"⟩, ⟨0xfa22, 0xfa22, "諸"⟩,
   ⟨0xfa25, 0xfa26, "逸 都"⟩,
   ⟨0xfa2a, 0xfa4f, "飯 飼 館 鶴 郞 隷 侮 僧 免 勉 勤 卑 喝 嘆 器 塀 墨 層 屮 悔 慨 憎 懲 敏 既 暑 梅 海 渚 漢 煮 爫 琢 碑 社 祉 祈 祐"⟩,
   ⟨0xfa50, 0xfa6d, "祖 祝 禍 禎 穀 突 節 練 縉 繁 署 者 臭 艹 艹 著 褐 視 謁 謹 賓 贈 辶 逸 難 響 頻 恵 𤋮 舘"⟩,
   ⟨0xfa70, 0xfa95, "並 况 全 侀 充 冀 勇 勺 喝 啕 喙 嗢 塚 墳 奄 奔 婢 嬨 廒 廙 彩 徭 惘 慎 愈 憎 慠 懲 戴 揄 搜 摒 敖 晴 朗 望 杖 歹"⟩,
   ⟨0xfa96, 0xfabb, "殺 流 滛 滋 漢 瀞 煮 瞧 爵 犯 猪 瑱 甆 画 瘝 瘟 益 盛 直 睊 着 磌 窱 節 类 絛 練 缾 者 荒 華 蝹 襁 覆 視 調 諸 請"⟩,
   ⟨0xfabc, 0xfad9, "謁 諾 諭 謹 變 贈 輸 遲 醙 鉶 陼 難 靖 韛 響 頋 頻 鬒 龜 𢡊 𢡄 𣏕 㮝 䀘 䀹 𥉉 𥳐 𧻓 齃 龎"⟩,
   ⟨0xfb1d, 0xfb1d, "\u05d9\u05b4"⟩, ⟨0xfb1f, 0xfb1f, "\u05f2\u05b7"⟩,
   ⟨0xfb2a, 0xfb2d, "\u05e9\u05c1 \u05e9\u05c2 \u05e9\u05bc\u05c1 \u05e9\u05bc\u05c2"⟩,
   ⟨0xfb2e, 0xfb32, "\u05d0\u05b7 \u05d0\u05b8 \u05d0\u05bc \u05d1\u05bc \u05d2\u05bc"⟩,
   ⟨0xfb33, 0xfb36, "\u05d3\u05bc \u05d4\u05bc \u05d5\u05bc \u05d6\u05bc"⟩,
   ⟨0xfb38, 0xfb3c, "\u05d8\u05bc \u05d9\u05bc \u05da\u05bc \u05db\u05bc \u05dc\u05bc"⟩,
   ⟨0xfb3e, 0xfb3e, "\u05de\u05bc"⟩, ⟨0xfb40, 0xfb41, "\u05e0\u05bc \u05e1\u05bc"⟩,
   ⟨0xfb43, 0xfb44, "\u05e3\u05bc \u05e4\u05bc"⟩,
   ⟨0xfb46, 0xfb4a, "\u05e6\u05bc \u05e7\u05bc \u05e8\u05bc \u05e9\u05bc \u05ea\u05bc"⟩,
   ⟨0xfb4b, 0xfb4e, "\u05d5\u05b9 \u05d1\u05bf \u05db\u05bf \u05e4\u05bf"⟩,
   ⟨0x1d15e, 0x1d164, "𝅗𝅥 𝅘𝅥 𝅘𝅥𝅮 𝅘𝅥𝅯 𝅘𝅥𝅰 𝅘𝅥𝅱 𝅘𝅥𝅲"⟩, ⟨0x1d1bb, 0x1d1c0, "𝆹𝅥 𝆺𝅥 𝆹𝅥𝅮 𝆺𝅥𝅮 𝆹𝅥𝅯 𝆺𝅥𝅯"⟩,
   ⟨0x2f800, 0x2f824, "丽 丸 乁 𠄢 你 侮 侻 倂 偺 備 僧 像 㒞 𠘺 免 兔 兤 具 𠔜 㒹 內 再 𠕋 冗 冤 仌 冬 况 𩇟 凵 刃 㓟 刻 剆 割 剷 㔕"⟩,
   ⟨0x2f825, 0x2f849, "勇 勉 勤 勺 包 匆 北 卉 卑 博 即 卽 卿 卿 卿 𠨬 灰 及 叟 𠭣 叫 叱 吆 咞 吸 呈 周 咢 哶 唐 啓 啣 善 善 喙 喫 喳"⟩,
   ⟨0x2f84a, 0x2f86e, "嗂 圖 嘆 圗 噑 噴 切 壮 城 埴 堍 型 堲 報 墬 𡓤 売 壷 夆 多 夢 奢 𡚨 𡛪 姬 娛 娧 姘 婦 㛮 㛼 嬈 嬾 嬾 𡧈 寃 寘"⟩,
   ⟨0x2f86f, 0x2f893, "寧 寳 𡬘 寿 将 当 尢 㞁 屠 屮 峀 岍 𡷤 嵃 𡷦 嵮 嵫 嵼 巡 巢 㠯 巽 帨 帽 幩 㡢 𢆃 㡼 庰 庳 庶 廊 𪎒 廾 𢌱 𢌱 舁"⟩,
   ⟨0x2f894, 0x2f8b8, "弢 弢 㣇 𣊸 𦇚 形 彫 㣣 徚 忍 志 忹 悁 㤺 㤜 悔 𢛔 惇 慈 慌 慎 慌 慺 憎 憲 憤 憯 懞 懲 懶 成 戛 扝 抱 拔 捐 𢬌"⟩,
   ⟨0x2f8b9, 0x2f8dd, "挽 拼 捨 掃 揤 𢯱 搢 揅 掩 㨮 摩 摾 撝 摷 㩬 敏 敬 𣀊 旣 書 晉 㬙 暑 㬈 㫤 冒 冕 最 暜 肭 䏙 朗 望 朡 杞 杓 𣏃"⟩,
   ⟨0x2f8de, 0x2f902, "㭉 柺 枅 桒 梅 𣑭 梎 栟 椔 㮝 楂 榣 槪 檨 𣚣 櫛 㰘 次 𣢧 歔 㱎 歲 殟 殺 殻 𣪍 𡴋 𣫺 汎 𣲼 沿 泍 汧 洖 派 海 流"⟩,
   ⟨0x2f903, 0x2f927, "浩 浸 涅 𣴞 洴 港 湮 㴳 滋 滇 𣻑 淹 潮 𣽞 𣾎 濆 瀹 瀞 瀛 㶖 灊 災 灷 炭 𠔥 煅 𤉣 熜 𤎫 爨 爵 牐 𤘈 犀 犕 𤜵 𤠔"⟩,
   ⟨0x2f928, 0x2f94c, "獺 王 㺬 玥 㺸 㺸 瑇 瑜 瑱 璅 瓊 㼛 甤 𤰶 甾 𤲒 異 𢆟 瘐 𤾡 𤾸 𥁄 㿼 䀈 直 𥃳 𥃲 𥄙 𥄳 眞 真 真 睊 䀹 瞋 䁆 䂖"⟩,
   ⟨0x2f94d, 0x2f971, "𥐝 硎 碌 磌 䃣 𥘦 祖 𥚚 𥛅 福 秫 䄯 穀 穊 穏 𥥼 𥪧 𥪧 竮 䈂 𥮫 篆 築 䈧 𥲀 糒 䊠 糨 糣 紀 𥾆 絣 䌁 緇 縂 繅 䌴"⟩,
   ⟨0x2f972, 0x2f996, "𦈨 𦉇 䍙 𦋙 罺 𦌾 羕 翺 者 𦓚 𦔣 聠 𦖨 聰 𣍟 䏕 育 脃 䐋 脾 媵 𦞧 𦞵 𣎓 𣎜 舁 舄 辞 䑫 芑 芋 芝 劳 花 芳 芽 苦"⟩,
   ⟨0x2f997, 0x2f9bb, "𦬼 若 茝 荣 莭 茣 莽 菧 著 荓 菊 菌 菜 𦰶 𦵫 𦳕 䔫 蓱 蓳 蔖 𧏊 蕤 𦼬 䕝 䕡 𦾱 𧃒 䕫 虐 虜 虧 虩 蚩 蚈 蜎 蛢 蝹"⟩,
   ⟨0x2f9bc, 0x2f9e0, "蜨 蝫 螆 䗗 蟡 蠁 䗹 衠 衣 𧙧 裗 裞 䘵 裺 㒻 𧢮 𧥦 䚾 䛇 誠 諭 變 豕 𧲨 貫 賁 贛 起 𧼯 𠠄 跋 趼 跰 𠣞 軔 輸 𨗒"⟩,
   ⟨0x2f9e1, 0x2fa05, "𨗭 邔 郱 鄑 𨜮 鄛 鈸 鋗 鋘 鉼 鏹 鐕 𨯺 開 䦕 閷 𨵷 䧦 雃 嶲 霣 𩅅 𩈚 䩮 䩶 韠 𩐊 䪲 𩒖 頋 頋 頩 𩖶 飢 䬳 餩 馧"⟩,
   ⟨0x2fa06, 0x2fa1d, "駂 駾 䯎 𩬰 鬒 鱀 鳽 䳎 䳭 鵧 𪃎 䳸 𪄅 𪈎 𪊑 麻 䵖 黹 黾 鼅 鼏 鼖 鼻 𪘀"⟩]

end NodeSupply.Text
