import NodeSupply.Text.Table

/-!
# Forms of characters

What characters count as where letters that differ in their case, and forms of a character that
differ in their looks, are the same.

## Main definitions

* `Text.forms` : the characters that count as something other than themselves in lower case.
-/

namespace NodeSupply.Text

/-- The characters that cannot be taken apart and count as something other than their lower case.
The letters of Cherokee count as themselves in upper case. -/
def forms : Table :=
  [⟨0xaa, 0xaa, "a"⟩, ⟨0xb2, 0xb3, "2 3"⟩, ⟨0xb5, 0xb5, "μ"⟩, ⟨0xb9, 0xba, "1 o"⟩,
   ⟨0xbc, 0xbe, "1⁄4 1⁄2 3⁄4"⟩, ⟨0x132, 0x133, "ij ij"⟩, ⟨0x13f, 0x140, "l· l·"⟩,
   ⟨0x149, 0x149, "ʼn"⟩, ⟨0x17f, 0x17f, "s"⟩, ⟨0x1c4, 0x1cc, "dž dž dž lj lj lj nj nj nj"⟩,
   ⟨0x1f1, 0x1f3, "dz dz dz"⟩, ⟨0x2b0, 0x2b8, "h ɦ j r ɹ ɻ ʁ w y"⟩, ⟨0x2e0, 0x2e4, "ɣ l s x ʕ"⟩,
   ⟨0x345, 0x345, "ι"⟩, ⟨0x3d0, 0x3d2, "β θ υ"⟩, ⟨0x3d5, 0x3d6, "φ π"⟩, ⟨0x3f0, 0x3f2, "κ ρ σ"⟩,
   ⟨0x3f5, 0x3f5, "ε"⟩, ⟨0x3f9, 0x3f9, "σ"⟩, ⟨0x587, 0x587, "եւ"⟩,
   ⟨0x675, 0x678, "\u0627\u0674 \u0648\u0674 \u06c7\u0674 \u064a\u0674"⟩, ⟨0xe33, 0xe33, "\u0e4dา"⟩,
   ⟨0xeb3, 0xeb3, "\u0ecdາ"⟩, ⟨0xedc, 0xedd, "ຫນ ຫມ"⟩, ⟨0xf0c, 0xf0c, "་"⟩,
   ⟨0xf77, 0xf77, "\u0fb2\u0f71\u0f80"⟩, ⟨0xf79, 0xf79, "\u0fb3\u0f71\u0f80"⟩,
   ⟨0x10fc, 0x10fc, "ნ"⟩,
   ⟨0x13a0, 0x13c5, "Ꭰ Ꭱ Ꭲ Ꭳ Ꭴ Ꭵ Ꭶ Ꭷ Ꭸ Ꭹ Ꭺ Ꭻ Ꭼ Ꭽ Ꭾ Ꭿ Ꮀ Ꮁ Ꮂ Ꮃ Ꮄ Ꮅ Ꮆ Ꮇ Ꮈ Ꮉ Ꮊ Ꮋ Ꮌ Ꮍ Ꮎ Ꮏ Ꮐ Ꮑ Ꮒ Ꮓ Ꮔ Ꮕ"⟩,
   ⟨0x13c6, 0x13eb, "Ꮖ Ꮗ Ꮘ Ꮙ Ꮚ Ꮛ Ꮜ Ꮝ Ꮞ Ꮟ Ꮠ Ꮡ Ꮢ Ꮣ Ꮤ Ꮥ Ꮦ Ꮧ Ꮨ Ꮩ Ꮪ Ꮫ Ꮬ Ꮭ Ꮮ Ꮯ Ꮰ Ꮱ Ꮲ Ꮳ Ꮴ Ꮵ Ꮶ Ꮷ Ꮸ Ꮹ Ꮺ Ꮻ"⟩,
   ⟨0x13ec, 0x13f5, "Ꮼ Ꮽ Ꮾ Ꮿ Ᏸ Ᏹ Ᏺ Ᏻ Ᏼ Ᏽ"⟩, ⟨0x13f8, 0x13fd, "Ᏸ Ᏹ Ᏺ Ᏻ Ᏼ Ᏽ"⟩,
   ⟨0x1c80, 0x1c88, "в д о с т т ъ ѣ ꙋ"⟩, ⟨0x1d2c, 0x1d2e, "a æ b"⟩,
   ⟨0x1d30, 0x1d3a, "d e ǝ g h i j k l m n"⟩,
   ⟨0x1d3c, 0x1d4d, "o ȣ p r t u w a ɐ ɑ ᴂ b d e ə ɛ ɜ g"⟩,
   ⟨0x1d4f, 0x1d6a, "k m ŋ o ɔ ᴖ ᴗ p t u ᴝ ɯ v ᴥ β γ δ φ χ i r u v β γ ρ φ χ"⟩,
   ⟨0x1d78, 0x1d78, "н"⟩,
   ⟨0x1d9b, 0x1dbf, "ɒ c ɕ ð ɜ f ɟ ɡ ɥ ɨ ɩ ɪ ᵻ ʝ ɭ ᶅ ʟ ɱ ɰ ɲ ɳ ɴ ɵ ɸ ʂ ʃ ƫ ʉ ʊ ᴜ ʋ ʌ z ʐ ʑ ʒ θ"⟩,
   ⟨0x1e9a, 0x1e9a, "aʾ"⟩, ⟨0x2011, 0x2011, "‐"⟩, ⟨0x2033, 0x2034, "′′ ′′′"⟩,
   ⟨0x2036, 0x2037, "‵‵ ‵‵‵"⟩, ⟨0x203c, 0x203c, "!!"⟩, ⟨0x2047, 0x2049, "?? ?! !?"⟩,
   ⟨0x2057, 0x2057, "′′′′"⟩, ⟨0x2070, 0x2071, "0 i"⟩,
   ⟨0x2074, 0x208e, "4 5 6 7 8 9 + − = ( ) n 0 1 2 3 4 5 6 7 8 9 + − = ( )"⟩,
   ⟨0x2090, 0x209c, "a e o x ə h k l m n p s t"⟩, ⟨0x20a8, 0x20a8, "rs"⟩,
   ⟨0x2100, 0x2103, "a/c a/s c °c"⟩, ⟨0x2105, 0x2107, "c/o c/u ɛ"⟩,
   ⟨0x2109, 0x2113, "°f g h h h h ħ i i l l"⟩, ⟨0x2115, 0x2116, "n no"⟩,
   ⟨0x2119, 0x211d, "p q r r r"⟩, ⟨0x2120, 0x2122, "sm tel tm"⟩, ⟨0x2124, 0x2124, "z"⟩,
   ⟨0x2128, 0x2128, "z"⟩, ⟨0x212c, 0x212d, "b c"⟩, ⟨0x212f, 0x2131, "e e f"⟩,
   ⟨0x2133, 0x2139, "m o \u05d0 \u05d1 \u05d2 \u05d3 i"⟩, ⟨0x213b, 0x2140, "fax π γ γ π ∑"⟩,
   ⟨0x2145, 0x2149, "d d e i j"⟩,
   ⟨0x2150, 0x2163, "1⁄7 1⁄9 1⁄10 1⁄3 2⁄3 1⁄5 2⁄5 3⁄5 4⁄5 1⁄6 5⁄6 1⁄8 3⁄8 5⁄8 7⁄8 1⁄ i ii iii iv"⟩,
   ⟨0x2164, 0x217d, "v vi vii viii ix x xi xii l c d m i ii iii iv v vi vii viii ix x xi xii l c"⟩,
   ⟨0x217e, 0x217f, "d m"⟩, ⟨0x2189, 0x2189, "0⁄3"⟩, ⟨0x222c, 0x222d, "∫∫ ∫∫∫"⟩,
   ⟨0x222f, 0x2230, "∮∮ ∮∮∮"⟩,
   ⟨0x2460, 0x2479, "1 2 3 4 5 6 7 8 9 10 11 12 13 14 15 16 17 18 19 20 (1) (2) (3) (4) (5) (6)"⟩,
   ⟨0x247a, 0x2487, "(7) (8) (9) (10) (11) (12) (13) (14) (15) (16) (17) (18) (19) (20)"⟩,
   ⟨0x249c, 0x24ae, "(a) (b) (c) (d) (e) (f) (g) (h) (i) (j) (k) (l) (m) (n) (o) (p) (q) (r) (s)"⟩,
   ⟨0x24af, 0x24cd, "(t) (u) (v) (w) (x) (y) (z) a b c d e f g h i j k l m n o p q r s t u v w x"⟩,
   ⟨0x24ce, 0x24ea, "y z a b c d e f g h i j k l m n o p q r s t u v w x y z 0"⟩,
   ⟨0x2a0c, 0x2a0c, "∫∫∫∫"⟩, ⟨0x2a74, 0x2a76, "::= == ==="⟩, ⟨0x2c7c, 0x2c7d, "j v"⟩,
   ⟨0x2d6f, 0x2d6f, "ⵡ"⟩, ⟨0x2e9f, 0x2e9f, "母"⟩, ⟨0x2ef3, 0x2ef3, "龟"⟩,
   ⟨0x2f00, 0x2f25, "一 丨 丶 丿 乙 亅 二 亠 人 儿 入 八 冂 冖 冫 几 凵 刀 力 勹 匕 匚 匸 十 卜 卩 厂 厶 又 口 囗 土 士 夂 夊 夕 大 女"⟩,
   ⟨0x2f26, 0x2f4b, "子 宀 寸 小 尢 尸 屮 山 巛 工 己 巾 干 幺 广 廴 廾 弋 弓 彐 彡 彳 心 戈 戶 手 支 攴 文 斗 斤 方 无 日 曰 月 木 欠"⟩,
   ⟨0x2f4c, 0x2f71, "止 歹 殳 毋 比 毛 氏 气 水 火 爪 父 爻 爿 片 牙 牛 犬 玄 玉 瓜 瓦 甘 生 用 田 疋 疒 癶 白 皮 皿 目 矛 矢 石 示 禸"⟩,
   ⟨0x2f72, 0x2f97, "禾 穴 立 竹 米 糸 缶 网 羊 羽 老 而 耒 耳 聿 肉 臣 自 至 臼 舌 舛 舟 艮 色 艸 虍 虫 血 行 衣 襾 見 角 言 谷 豆 豕"⟩,
   ⟨0x2f98, 0x2fbd, "豸 貝 赤 走 足 身 車 辛 辰 辵 邑 酉 釆 里 金 長 門 阜 隶 隹 雨 靑 非 面 革 韋 韭 音 頁 風 飛 食 首 香 馬 骨 高 髟"⟩,
   ⟨0x2fbe, 0x2fd5, "鬥 鬯 鬲 鬼 魚 鳥 鹵 鹿 麥 麻 黃 黍 黑 黹 黽 鼎 鼓 鼠 鼻 齊 齒 龍 龜 龠"⟩, ⟨0x3002, 0x3002, "."⟩,
   ⟨0x3036, 0x3036, "〒"⟩, ⟨0x3038, 0x303a, "十 卄 卅"⟩, ⟨0x309f, 0x309f, "より"⟩, ⟨0x30ff, 0x30ff, "コト"⟩,
   ⟨0x3131, 0x3156, "ᄀ ᄁ ᆪ ᄂ ᆬ ᆭ ᄃ ᄄ ᄅ ᆰ ᆱ ᆲ ᆳ ᆴ ᆵ ᄚ ᄆ ᄇ ᄈ ᄡ ᄉ ᄊ ᄋ ᄌ ᄍ ᄎ ᄏ ᄐ ᄑ ᄒ ᅡ ᅢ ᅣ ᅤ ᅥ ᅦ ᅧ ᅨ"⟩,
   ⟨0x3157, 0x3163, "ᅩ ᅪ ᅫ ᅬ ᅭ ᅮ ᅯ ᅰ ᅱ ᅲ ᅳ ᅴ ᅵ"⟩,
   ⟨0x3165, 0x318a, "ᄔ ᄕ ᇇ ᇈ ᇌ ᇎ ᇓ ᇗ ᇙ ᄜ ᇝ ᇟ ᄝ ᄞ ᄠ ᄢ ᄣ ᄧ ᄩ ᄫ ᄬ ᄭ ᄮ ᄯ ᄲ ᄶ ᅀ ᅇ ᅌ ᇱ ᇲ ᅗ ᅘ ᅙ ᆄ ᆅ ᆈ ᆑ"⟩,
   ⟨0x318b, 0x318e, "ᆒ ᆔ ᆞ ᆡ"⟩, ⟨0x3192, 0x319f, "一 二 三 四 上 中 下 甲 乙 丙 丁 天 地 人"⟩,
   ⟨0x3200, 0x3212, "(ᄀ) (ᄂ) (ᄃ) (ᄅ) (ᄆ) (ᄇ) (ᄉ) (ᄋ) (ᄌ) (ᄎ) (ᄏ) (ᄐ) (ᄑ) (ᄒ) (가) (나) (다) (라) (마)"⟩,
   ⟨0x3213, 0x321e, "(바) (사) (아) (자) (차) (카) (타) (파) (하) (주) (오전) (오후)"⟩,
   ⟨0x3220, 0x3232, "(一) (二) (三) (四) (五) (六) (七) (八) (九) (十) (月) (火) (水) (木) (金) (土) (日) (株) (有)"⟩,
   ⟨0x3233, 0x3247, "(社) (名) (特) (財) (祝) (労) (代) (呼) (学) (監) (企) (資) (協) (祭) (休) (自) (至) 問 幼 文 箏"⟩,
   ⟨0x3250, 0x326c, "pte 21 22 23 24 25 26 27 28 29 30 31 32 33 34 35 ᄀ ᄂ ᄃ ᄅ ᄆ ᄇ ᄉ ᄋ ᄌ ᄎ ᄏ ᄐ ᄑ"⟩,
   ⟨0x326d, 0x327e, "ᄒ 가 나 다 라 마 바 사 아 자 차 카 타 파 하 참고 주의 우"⟩,
   ⟨0x3280, 0x32a5, "一 二 三 四 五 六 七 八 九 十 月 火 水 木 金 土 日 株 有 社 名 特 財 祝 労 秘 男 女 適 優 印 注 項 休 写 正 上 中"⟩,
   ⟨0x32a6, 0x32c2, "下 左 右 医 宗 学 監 企 資 協 夜 36 37 38 39 40 41 42 43 44 45 46 47 48 49 50 1月 2月 3月"⟩,
   ⟨0x32c3, 0x32df, "4月 5月 6月 7月 8月 9月 10月 11月 12月 hg erg ev ltd ア イ ウ エ オ カ キ ク ケ コ サ シ ス セ ソ タ"⟩,
   ⟨0x32e0, 0x3301, "チ ツ テ ト ナ ニ ヌ ネ ノ ハ ヒ フ ヘ ホ マ ミ ム メ モ ヤ ユ ヨ ラ リ ル レ ロ ワ ヰ ヱ ヲ 令和 アパート アルファ"⟩,
   ⟨0x3302, 0x3312, "アンペア アール イニング インチ ウォン エスクード エーカー オンス オーム カイリ カラット カロリー ガロン ガンマ ギガ ギニー キュリー"⟩,
   ⟨0x3313, 0x3321, "ギルダー キロ キログラム キロメートル キロワット グラム グラムトン クルゼイロ クローネ ケース コルナ コーポ サイクル サンチーム シリング"⟩,
   ⟨0x3322, 0x3333, "センチ セント ダース デシ ドル トン ナノ ノット ハイツ パーセント パーツ バーレル ピアストル ピクル ピコ ビル ファラッド フィート"⟩,
   ⟨0x3334, 0x3345, "ブッシェル フラン ヘクタール ペソ ペニヒ ヘルツ ペンス ページ ベータ ポイント ボルト ホン ポンド ホール ホーン マイクロ マイル マッハ"⟩,
   ⟨0x3346, 0x3356, "マルク マンション ミクロン ミリ ミリバール メガ メガトン メートル ヤード ヤール ユアン リットル リラ ルピー ルーブル レム レントゲン"⟩,
   ⟨0x3357, 0x336b, "ワット 0点 1点 2点 3点 4点 5点 6点 7点 8点 9点 10点 11点 12点 13点 14点 15点 16点 17点 18点 19点"⟩,
   ⟨0x336c, 0x3380, "20点 21点 22点 23点 24点 hpa da au bar ov pc dm dm2 dm3 iu 平成 昭和 大正 明治 株式会社 pa"⟩,
   ⟨0x3381, 0x3397, "na μa ma ka kb mb gb cal kcal pf nf μf μg mg kg hz khz mhz ghz thz μl ml dl"⟩,
   ⟨0x3398, 0x33ac, "kl fm nm μm mm cm km mm2 cm2 m2 km2 mm3 cm3 m3 km3 m∕s m∕s2 pa kpa mpa gpa"⟩,
   ⟨0x33ad, 0x33c1, "rad rad∕s rad∕s2 ps ns μs ms pv nv μv mv kv mv pw nw μw mw kw mw kω mω"⟩,
   ⟨0x33c3, 0x33c6, "bq cc cd c∕kg"⟩,
   ⟨0x33c8, 0x33d7, "db gy ha hp in kk km kt lm ln log lx mb mil mol ph"⟩,
   ⟨0x33d9, 0x33ee, "ppm pr sr sv wb v∕m a∕m 1日 2日 3日 4日 5日 6日 7日 8日 9日 10日 11日 12日 13日 14日 15日"⟩,
   ⟨0x33ef, 0x33ff, "16日 17日 18日 19日 20日 21日 22日 23日 24日 25日 26日 27日 28日 29日 30日 31日 gal"⟩,
   ⟨0xa69c, 0xa69d, "ъ ь"⟩, ⟨0xa770, 0xa770, "ꝯ"⟩, ⟨0xa7f1, 0xa7f4, "s c f q"⟩,
   ⟨0xa7f8, 0xa7f9, "ħ œ"⟩, ⟨0xab5c, 0xab5f, "ꜧ ꬷ ɫ ꭒ"⟩, ⟨0xab69, 0xab69, "ʍ"⟩,
   ⟨0xab70, 0xab95, "Ꭰ Ꭱ Ꭲ Ꭳ Ꭴ Ꭵ Ꭶ Ꭷ Ꭸ Ꭹ Ꭺ Ꭻ Ꭼ Ꭽ Ꭾ Ꭿ Ꮀ Ꮁ Ꮂ Ꮃ Ꮄ Ꮅ Ꮆ Ꮇ Ꮈ Ꮉ Ꮊ Ꮋ Ꮌ Ꮍ Ꮎ Ꮏ Ꮐ Ꮑ Ꮒ Ꮓ Ꮔ Ꮕ"⟩,
   ⟨0xab96, 0xabbb, "Ꮖ Ꮗ Ꮘ Ꮙ Ꮚ Ꮛ Ꮜ Ꮝ Ꮞ Ꮟ Ꮠ Ꮡ Ꮢ Ꮣ Ꮤ Ꮥ Ꮦ Ꮧ Ꮨ Ꮩ Ꮪ Ꮫ Ꮬ Ꮭ Ꮮ Ꮯ Ꮰ Ꮱ Ꮲ Ꮳ Ꮴ Ꮵ Ꮶ Ꮷ Ꮸ Ꮹ Ꮺ Ꮻ"⟩,
   ⟨0xabbc, 0xabbf, "Ꮼ Ꮽ Ꮾ Ꮿ"⟩, ⟨0xfb00, 0xfb06, "ff fi fl ffi ffl st st"⟩,
   ⟨0xfb13, 0xfb17, "մն մե մի վն մխ"⟩,
   ⟨0xfb20, 0xfb29, "\u05e2 \u05d0 \u05d3 \u05d4 \u05db \u05dc \u05dd \u05e8 \u05ea +"⟩,
   ⟨0xfb4f, 0xfb58, "\u05d0\u05dc \u0671 \u0671 \u067b \u067b \u067b \u067b \u067e \u067e \u067e"⟩,
   ⟨0xfb59, 0xfb62, "\u067e \u0680 \u0680 \u0680 \u0680 \u067a \u067a \u067a \u067a \u067f"⟩,
   ⟨0xfb63, 0xfb6c, "\u067f \u067f \u067f \u0679 \u0679 \u0679 \u0679 \u06a4 \u06a4 \u06a4"⟩,
   ⟨0xfb6d, 0xfb76, "\u06a4 \u06a6 \u06a6 \u06a6 \u06a6 \u0684 \u0684 \u0684 \u0684 \u0683"⟩,
   ⟨0xfb77, 0xfb80, "\u0683 \u0683 \u0683 \u0686 \u0686 \u0686 \u0686 \u0687 \u0687 \u0687"⟩,
   ⟨0xfb81, 0xfb8a, "\u0687 \u068d \u068d \u068c \u068c \u068e \u068e \u0688 \u0688 \u0698"⟩,
   ⟨0xfb8b, 0xfb94, "\u0698 \u0691 \u0691 \u06a9 \u06a9 \u06a9 \u06a9 \u06af \u06af \u06af"⟩,
   ⟨0xfb95, 0xfb9e, "\u06af \u06b3 \u06b3 \u06b3 \u06b3 \u06b1 \u06b1 \u06b1 \u06b1 \u06ba"⟩,
   ⟨0xfb9f, 0xfba8, "\u06ba \u06bb \u06bb \u06bb \u06bb \u06c0 \u06c0 \u06c1 \u06c1 \u06c1"⟩,
   ⟨0xfba9, 0xfbb1, "\u06c1 \u06be \u06be \u06be \u06be \u06d2 \u06d2 \u06d3 \u06d3"⟩,
   ⟨0xfbd3, 0xfbdc, "\u06ad \u06ad \u06ad \u06ad \u06c7 \u06c7 \u06c6 \u06c6 \u06c8 \u06c8"⟩,
   ⟨0xfbdd, 0xfbe6, "\u06c7\u0674 \u06cb \u06cb \u06c5 \u06c5 \u06c9 \u06c9 \u06d0 \u06d0 \u06d0"⟩,
   ⟨0xfbe7, 0xfbed, "\u06d0 \u0649 \u0649 \u0626\u0627 \u0626\u0627 \u0626\u06d5 \u0626\u06d5"⟩,
   ⟨0xfbee, 0xfbf2, "\u0626\u0648 \u0626\u0648 \u0626\u06c7 \u0626\u06c7 \u0626\u06c6"⟩,
   ⟨0xfbf3, 0xfbf7, "\u0626\u06c6 \u0626\u06c8 \u0626\u06c8 \u0626\u06d0 \u0626\u06d0"⟩,
   ⟨0xfbf8, 0xfbfe, "\u0626\u06d0 \u0626\u0649 \u0626\u0649 \u0626\u0649 \u06cc \u06cc \u06cc"⟩,
   ⟨0xfbff, 0xfc04, "\u06cc \u0626\u062c \u0626\u062d \u0626\u0645 \u0626\u0649 \u0626\u064a"⟩,
   ⟨0xfc05, 0xfc09, "\u0628\u062c \u0628\u062d \u0628\u062e \u0628\u0645 \u0628\u0649"⟩,
   ⟨0xfc0a, 0xfc0e, "\u0628\u064a \u062a\u062c \u062a\u062d \u062a\u062e \u062a\u0645"⟩,
   ⟨0xfc0f, 0xfc13, "\u062a\u0649 \u062a\u064a \u062b\u062c \u062b\u0645 \u062b\u0649"⟩,
   ⟨0xfc14, 0xfc18, "\u062b\u064a \u062c\u062d \u062c\u0645 \u062d\u062c \u062d\u0645"⟩,
   ⟨0xfc19, 0xfc1d, "\u062e\u062c \u062e\u062d \u062e\u0645 \u0633\u062c \u0633\u062d"⟩,
   ⟨0xfc1e, 0xfc22, "\u0633\u062e \u0633\u0645 \u0635\u062d \u0635\u0645 \u0636\u062c"⟩,
   ⟨0xfc23, 0xfc27, "\u0636\u062d \u0636\u062e \u0636\u0645 \u0637\u062d \u0637\u0645"⟩,
   ⟨0xfc28, 0xfc2c, "\u0638\u0645 \u0639\u062c \u0639\u0645 \u063a\u062c \u063a\u0645"⟩,
   ⟨0xfc2d, 0xfc31, "\u0641\u062c \u0641\u062d \u0641\u062e \u0641\u0645 \u0641\u0649"⟩,
   ⟨0xfc32, 0xfc36, "\u0641\u064a \u0642\u062d \u0642\u0645 \u0642\u0649 \u0642\u064a"⟩,
   ⟨0xfc37, 0xfc3b, "\u0643\u0627 \u0643\u062c \u0643\u062d \u0643\u062e \u0643\u0644"⟩,
   ⟨0xfc3c, 0xfc40, "\u0643\u0645 \u0643\u0649 \u0643\u064a \u0644\u062c \u0644\u062d"⟩,
   ⟨0xfc41, 0xfc45, "\u0644\u062e \u0644\u0645 \u0644\u0649 \u0644\u064a \u0645\u062c"⟩,
   ⟨0xfc46, 0xfc4a, "\u0645\u062d \u0645\u062e \u0645\u0645 \u0645\u0649 \u0645\u064a"⟩,
   ⟨0xfc4b, 0xfc4f, "\u0646\u062c \u0646\u062d \u0646\u062e \u0646\u0645 \u0646\u0649"⟩,
   ⟨0xfc50, 0xfc54, "\u0646\u064a \u0647\u062c \u0647\u0645 \u0647\u0649 \u0647\u064a"⟩,
   ⟨0xfc55, 0xfc59, "\u064a\u062c \u064a\u062d \u064a\u062e \u064a\u0645 \u064a\u0649"⟩,
   ⟨0xfc5a, 0xfc5d, "\u064a\u064a \u0630\u0670 \u0631\u0670 \u0649\u0670"⟩,
   ⟨0xfc64, 0xfc68, "\u0626\u0631 \u0626\u0632 \u0626\u0645 \u0626\u0646 \u0626\u0649"⟩,
   ⟨0xfc69, 0xfc6d, "\u0626\u064a \u0628\u0631 \u0628\u0632 \u0628\u0645 \u0628\u0646"⟩,
   ⟨0xfc6e, 0xfc72, "\u0628\u0649 \u0628\u064a \u062a\u0631 \u062a\u0632 \u062a\u0645"⟩,
   ⟨0xfc73, 0xfc77, "\u062a\u0646 \u062a\u0649 \u062a\u064a \u062b\u0631 \u062b\u0632"⟩,
   ⟨0xfc78, 0xfc7c, "\u062b\u0645 \u062b\u0646 \u062b\u0649 \u062b\u064a \u0641\u0649"⟩,
   ⟨0xfc7d, 0xfc81, "\u0641\u064a \u0642\u0649 \u0642\u064a \u0643\u0627 \u0643\u0644"⟩,
   ⟨0xfc82, 0xfc86, "\u0643\u0645 \u0643\u0649 \u0643\u064a \u0644\u0645 \u0644\u0649"⟩,
   ⟨0xfc87, 0xfc8b, "\u0644\u064a \u0645\u0627 \u0645\u0645 \u0646\u0631 \u0646\u0632"⟩,
   ⟨0xfc8c, 0xfc90, "\u0646\u0645 \u0646\u0646 \u0646\u0649 \u0646\u064a \u0649\u0670"⟩,
   ⟨0xfc91, 0xfc95, "\u064a\u0631 \u064a\u0632 \u064a\u0645 \u064a\u0646 \u064a\u0649"⟩,
   ⟨0xfc96, 0xfc9a, "\u064a\u064a \u0626\u062c \u0626\u062d \u0626\u062e \u0626\u0645"⟩,
   ⟨0xfc9b, 0xfc9f, "\u0626\u0647 \u0628\u062c \u0628\u062d \u0628\u062e \u0628\u0645"⟩,
   ⟨0xfca0, 0xfca4, "\u0628\u0647 \u062a\u062c \u062a\u062d \u062a\u062e \u062a\u0645"⟩,
   ⟨0xfca5, 0xfca9, "\u062a\u0647 \u062b\u0645 \u062c\u062d \u062c\u0645 \u062d\u062c"⟩,
   ⟨0xfcaa, 0xfcae, "\u062d\u0645 \u062e\u062c \u062e\u0645 \u0633\u062c \u0633\u062d"⟩,
   ⟨0xfcaf, 0xfcb3, "\u0633\u062e \u0633\u0645 \u0635\u062d \u0635\u062e \u0635\u0645"⟩,
   ⟨0xfcb4, 0xfcb8, "\u0636\u062c \u0636\u062d \u0636\u062e \u0636\u0645 \u0637\u062d"⟩,
   ⟨0xfcb9, 0xfcbd, "\u0638\u0645 \u0639\u062c \u0639\u0645 \u063a\u062c \u063a\u0645"⟩,
   ⟨0xfcbe, 0xfcc2, "\u0641\u062c \u0641\u062d \u0641\u062e \u0641\u0645 \u0642\u062d"⟩,
   ⟨0xfcc3, 0xfcc7, "\u0642\u0645 \u0643\u062c \u0643\u062d \u0643\u062e \u0643\u0644"⟩,
   ⟨0xfcc8, 0xfccc, "\u0643\u0645 \u0644\u062c \u0644\u062d \u0644\u062e \u0644\u0645"⟩,
   ⟨0xfccd, 0xfcd1, "\u0644\u0647 \u0645\u062c \u0645\u062d \u0645\u062e \u0645\u0645"⟩,
   ⟨0xfcd2, 0xfcd6, "\u0646\u062c \u0646\u062d \u0646\u062e \u0646\u0645 \u0646\u0647"⟩,
   ⟨0xfcd7, 0xfcdb, "\u0647\u062c \u0647\u0645 \u0647\u0670 \u064a\u062c \u064a\u062d"⟩,
   ⟨0xfcdc, 0xfce0, "\u064a\u062e \u064a\u0645 \u064a\u0647 \u0626\u0645 \u0626\u0647"⟩,
   ⟨0xfce1, 0xfce5, "\u0628\u0645 \u0628\u0647 \u062a\u0645 \u062a\u0647 \u062b\u0645"⟩,
   ⟨0xfce6, 0xfcea, "\u062b\u0647 \u0633\u0645 \u0633\u0647 \u0634\u0645 \u0634\u0647"⟩,
   ⟨0xfceb, 0xfcef, "\u0643\u0644 \u0643\u0645 \u0644\u0645 \u0646\u0645 \u0646\u0647"⟩,
   ⟨0xfcf0, 0xfcf3, "\u064a\u0645 \u064a\u0647 \u0640\u064e\u0651 \u0640\u064f\u0651"⟩,
   ⟨0xfcf4, 0xfcf8, "\u0640\u0650\u0651 \u0637\u0649 \u0637\u064a \u0639\u0649 \u0639\u064a"⟩,
   ⟨0xfcf9, 0xfcfd, "\u063a\u0649 \u063a\u064a \u0633\u0649 \u0633\u064a \u0634\u0649"⟩,
   ⟨0xfcfe, 0xfd02, "\u0634\u064a \u062d\u0649 \u062d\u064a \u062c\u0649 \u062c\u064a"⟩,
   ⟨0xfd03, 0xfd07, "\u062e\u0649 \u062e\u064a \u0635\u0649 \u0635\u064a \u0636\u0649"⟩,
   ⟨0xfd08, 0xfd0c, "\u0636\u064a \u0634\u062c \u0634\u062d \u0634\u062e \u0634\u0645"⟩,
   ⟨0xfd0d, 0xfd11, "\u0634\u0631 \u0633\u0631 \u0635\u0631 \u0636\u0631 \u0637\u0649"⟩,
   ⟨0xfd12, 0xfd16, "\u0637\u064a \u0639\u0649 \u0639\u064a \u063a\u0649 \u063a\u064a"⟩,
   ⟨0xfd17, 0xfd1b, "\u0633\u0649 \u0633\u064a \u0634\u0649 \u0634\u064a \u062d\u0649"⟩,
   ⟨0xfd1c, 0xfd20, "\u062d\u064a \u062c\u0649 \u062c\u064a \u062e\u0649 \u062e\u064a"⟩,
   ⟨0xfd21, 0xfd25, "\u0635\u0649 \u0635\u064a \u0636\u0649 \u0636\u064a \u0634\u062c"⟩,
   ⟨0xfd26, 0xfd2a, "\u0634\u062d \u0634\u062e \u0634\u0645 \u0634\u0631 \u0633\u0631"⟩,
   ⟨0xfd2b, 0xfd2f, "\u0635\u0631 \u0636\u0631 \u0634\u062c \u0634\u062d \u0634\u062e"⟩,
   ⟨0xfd30, 0xfd34, "\u0634\u0645 \u0633\u0647 \u0634\u0647 \u0637\u0645 \u0633\u062c"⟩,
   ⟨0xfd35, 0xfd39, "\u0633\u062d \u0633\u062e \u0634\u062c \u0634\u062d \u0634\u062e"⟩,
   ⟨0xfd3a, 0xfd3d, "\u0637\u0645 \u0638\u0645 \u0627\u064b \u0627\u064b"⟩,
   ⟨0xfd50, 0xfd53, "\u062a\u062c\u0645 \u062a\u062d\u062c \u062a\u062d\u062c \u062a\u062d\u0645"⟩,
   ⟨0xfd54, 0xfd57, "\u062a\u062e\u0645 \u062a\u0645\u062c \u062a\u0645\u062d \u062a\u0645\u062e"⟩,
   ⟨0xfd58, 0xfd5b, "\u062c\u0645\u062d \u062c\u0645\u062d \u062d\u0645\u064a \u062d\u0645\u0649"⟩,
   ⟨0xfd5c, 0xfd5f, "\u0633\u062d\u062c \u0633\u062c\u062d \u0633\u062c\u0649 \u0633\u0645\u062d"⟩,
   ⟨0xfd60, 0xfd63, "\u0633\u0645\u062d \u0633\u0645\u062c \u0633\u0645\u0645 \u0633\u0645\u0645"⟩,
   ⟨0xfd64, 0xfd67, "\u0635\u062d\u062d \u0635\u062d\u062d \u0635\u0645\u0645 \u0634\u062d\u0645"⟩,
   ⟨0xfd68, 0xfd6b, "\u0634\u062d\u0645 \u0634\u062c\u064a \u0634\u0645\u062e \u0634\u0645\u062e"⟩,
   ⟨0xfd6c, 0xfd6f, "\u0634\u0645\u0645 \u0634\u0645\u0645 \u0636\u062d\u0649 \u0636\u062e\u0645"⟩,
   ⟨0xfd70, 0xfd73, "\u0636\u062e\u0645 \u0637\u0645\u062d \u0637\u0645\u062d \u0637\u0645\u0645"⟩,
   ⟨0xfd74, 0xfd77, "\u0637\u0645\u064a \u0639\u062c\u0645 \u0639\u0645\u0645 \u0639\u0645\u0645"⟩,
   ⟨0xfd78, 0xfd7b, "\u0639\u0645\u0649 \u063a\u0645\u0645 \u063a\u0645\u064a \u063a\u0645\u0649"⟩,
   ⟨0xfd7c, 0xfd7f, "\u0641\u062e\u0645 \u0641\u062e\u0645 \u0642\u0645\u062d \u0642\u0645\u0645"⟩,
   ⟨0xfd80, 0xfd83, "\u0644\u062d\u0645 \u0644\u062d\u064a \u0644\u062d\u0649 \u0644\u062c\u062c"⟩,
   ⟨0xfd84, 0xfd87, "\u0644\u062c\u062c \u0644\u062e\u0645 \u0644\u062e\u0645 \u0644\u0645\u062d"⟩,
   ⟨0xfd88, 0xfd8b, "\u0644\u0645\u062d \u0645\u062d\u062c \u0645\u062d\u0645 \u0645\u062d\u064a"⟩,
   ⟨0xfd8c, 0xfd8f, "\u0645\u062c\u062d \u0645\u062c\u0645 \u0645\u062e\u062c \u0645\u062e\u0645"⟩,
   ⟨0xfd92, 0xfd95, "\u0645\u062c\u062e \u0647\u0645\u062c \u0647\u0645\u0645 \u0646\u062d\u0645"⟩,
   ⟨0xfd96, 0xfd99, "\u0646\u062d\u0649 \u0646\u062c\u0645 \u0646\u062c\u0645 \u0646\u062c\u0649"⟩,
   ⟨0xfd9a, 0xfd9d, "\u0646\u0645\u064a \u0646\u0645\u0649 \u064a\u0645\u0645 \u064a\u0645\u0645"⟩,
   ⟨0xfd9e, 0xfda1, "\u0628\u062e\u064a \u062a\u062c\u064a \u062a\u062c\u0649 \u062a\u062e\u064a"⟩,
   ⟨0xfda2, 0xfda5, "\u062a\u062e\u0649 \u062a\u0645\u064a \u062a\u0645\u0649 \u062c\u0645\u064a"⟩,
   ⟨0xfda6, 0xfda9, "\u062c\u062d\u0649 \u062c\u0645\u0649 \u0633\u062e\u0649 \u0635\u062d\u064a"⟩,
   ⟨0xfdaa, 0xfdad, "\u0634\u062d\u064a \u0636\u062d\u064a \u0644\u062c\u064a \u0644\u0645\u064a"⟩,
   ⟨0xfdae, 0xfdb1, "\u064a\u062d\u064a \u064a\u062c\u064a \u064a\u0645\u064a \u0645\u0645\u064a"⟩,
   ⟨0xfdb2, 0xfdb5, "\u0642\u0645\u064a \u0646\u062d\u064a \u0642\u0645\u062d \u0644\u062d\u0645"⟩,
   ⟨0xfdb6, 0xfdb9, "\u0639\u0645\u064a \u0643\u0645\u064a \u0646\u062c\u062d \u0645\u062e\u064a"⟩,
   ⟨0xfdba, 0xfdbd, "\u0644\u062c\u0645 \u0643\u0645\u0645 \u0644\u062c\u0645 \u0646\u062c\u062d"⟩,
   ⟨0xfdbe, 0xfdc1, "\u062c\u062d\u064a \u062d\u062c\u064a \u0645\u062c\u064a \u0641\u0645\u064a"⟩,
   ⟨0xfdc2, 0xfdc5, "\u0628\u062d\u064a \u0643\u0645\u0645 \u0639\u062c\u0645 \u0635\u0645\u0645"⟩,
   ⟨0xfdc6, 0xfdc7, "\u0633\u062e\u064a \u0646\u062c\u064a"⟩,
   ⟨0xfdf0, 0xfdf2, "\u0635\u0644\u06d2 \u0642\u0644\u06d2 \u0627\u0644\u0644\u0647"⟩,
   ⟨0xfdf3, 0xfdf5, "\u0627\u0643\u0628\u0631 \u0645\u062d\u0645\u062f \u0635\u0644\u0639\u0645"⟩,
   ⟨0xfdf6, 0xfdf8, "\u0631\u0633\u0648\u0644 \u0639\u0644\u064a\u0647 \u0648\u0633\u0644\u0645"⟩,
   ⟨0xfdf9, 0xfdf9, "\u0635\u0644\u0649"⟩, ⟨0xfdfc, 0xfdfc, "\u0631\u06cc\u0627\u0644"⟩,
   ⟨0xfe10, 0xfe11, ", 、"⟩, ⟨0xfe13, 0xfe18, ": ; ! ? 〖 〗"⟩,
   ⟨0xfe31, 0xfe44, "— – _ _ ( ) \x7b \x7d 〔 〕 【 】 《 》 〈 〉 「 」 『 』"⟩, ⟨0xfe47, 0xfe48, "[ ]"⟩,
   ⟨0xfe4d, 0xfe51, "_ _ _ , 、"⟩, ⟨0xfe54, 0xfe66, "; : ? ! — ( ) \x7b \x7d 〔 〕 # & * + - < > ="⟩,
   ⟨0xfe68, 0xfe6b, "\\ $ % @"⟩, ⟨0xfe71, 0xfe71, "\u0640\u064b"⟩, ⟨0xfe77, 0xfe77, "\u0640\u064e"⟩,
   ⟨0xfe79, 0xfe79, "\u0640\u064f"⟩, ⟨0xfe7b, 0xfe7b, "\u0640\u0650"⟩,
   ⟨0xfe7d, 0xfe7d, "\u0640\u0651"⟩,
   ⟨0xfe7f, 0xfe88, "\u0640\u0652 \u0621 \u0622 \u0622 \u0623 \u0623 \u0624 \u0624 \u0625 \u0625"⟩,
   ⟨0xfe89, 0xfe92, "\u0626 \u0626 \u0626 \u0626 \u0627 \u0627 \u0628 \u0628 \u0628 \u0628"⟩,
   ⟨0xfe93, 0xfe9c, "\u0629 \u0629 \u062a \u062a \u062a \u062a \u062b \u062b \u062b \u062b"⟩,
   ⟨0xfe9d, 0xfea6, "\u062c \u062c \u062c \u062c \u062d \u062d \u062d \u062d \u062e \u062e"⟩,
   ⟨0xfea7, 0xfeb0, "\u062e \u062e \u062f \u062f \u0630 \u0630 \u0631 \u0631 \u0632 \u0632"⟩,
   ⟨0xfeb1, 0xfeba, "\u0633 \u0633 \u0633 \u0633 \u0634 \u0634 \u0634 \u0634 \u0635 \u0635"⟩,
   ⟨0xfebb, 0xfec4, "\u0635 \u0635 \u0636 \u0636 \u0636 \u0636 \u0637 \u0637 \u0637 \u0637"⟩,
   ⟨0xfec5, 0xfece, "\u0638 \u0638 \u0638 \u0638 \u0639 \u0639 \u0639 \u0639 \u063a \u063a"⟩,
   ⟨0xfecf, 0xfed8, "\u063a \u063a \u0641 \u0641 \u0641 \u0641 \u0642 \u0642 \u0642 \u0642"⟩,
   ⟨0xfed9, 0xfee2, "\u0643 \u0643 \u0643 \u0643 \u0644 \u0644 \u0644 \u0644 \u0645 \u0645"⟩,
   ⟨0xfee3, 0xfeec, "\u0645 \u0645 \u0646 \u0646 \u0646 \u0646 \u0647 \u0647 \u0647 \u0647"⟩,
   ⟨0xfeed, 0xfef5, "\u0648 \u0648 \u0649 \u0649 \u064a \u064a \u064a \u064a \u0644\u0622"⟩,
   ⟨0xfef6, 0xfefa, "\u0644\u0622 \u0644\u0623 \u0644\u0623 \u0644\u0625 \u0644\u0625"⟩,
   ⟨0xfefb, 0xfefc, "\u0644\u0627 \u0644\u0627"⟩,
   ⟨0xff01, 0xff25, "! \" # $ % & ' ( ) * + , - . / 0 1 2 3 4 5 6 7 8 9 : ; < = > ? @ a b c d e"⟩,
   ⟨0xff26, 0xff4a, "f g h i j k l m n o p q r s t u v w x y z [ \\ ] ^ _ ` a b c d e f g h i j"⟩,
   ⟨0xff4b, 0xff6d, "k l m n o p q r s t u v w x y z \x7b | \x7d ~ ⦅ ⦆ . 「 」 、 ・ ヲ ァ ィ ゥ ェ ォ ャ ュ"⟩,
   ⟨0xff6e, 0xff93, "ョ ッ ー ア イ ウ エ オ カ キ ク ケ コ サ シ ス セ ソ タ チ ツ テ ト ナ ニ ヌ ネ ノ ハ ヒ フ ヘ ホ マ ミ ム メ モ"⟩,
   ⟨0xff94, 0xff9f, "ヤ ユ ヨ ラ リ ル レ ロ ワ ン \u3099 \u309a"⟩,
   ⟨0xffa1, 0xffbe, "ᄀ ᄁ ᆪ ᄂ ᆬ ᆭ ᄃ ᄄ ᄅ ᆰ ᆱ ᆲ ᆳ ᆴ ᆵ ᄚ ᄆ ᄇ ᄈ ᄡ ᄉ ᄊ ᄋ ᄌ ᄍ ᄎ ᄏ ᄐ ᄑ ᄒ"⟩,
   ⟨0xffc2, 0xffc7, "ᅡ ᅢ ᅣ ᅤ ᅥ ᅦ"⟩, ⟨0xffca, 0xffcf, "ᅧ ᅨ ᅩ ᅪ ᅫ ᅬ"⟩,
   ⟨0xffd2, 0xffd7, "ᅭ ᅮ ᅯ ᅰ ᅱ ᅲ"⟩, ⟨0xffda, 0xffdc, "ᅳ ᅴ ᅵ"⟩, ⟨0xffe0, 0xffe2, "¢ £ ¬"⟩,
   ⟨0xffe4, 0xffe6, "¦ ¥ ₩"⟩, ⟨0xffe8, 0xffee, "│ ← ↑ → ↓ ■ ○"⟩, ⟨0x10781, 0x10785, "ː ˑ æ ʙ ɓ"⟩,
   ⟨0x10787, 0x107ab, "ʣ ꭦ ʥ ʤ ɖ ɗ ᶑ ɘ ɞ ʩ ɤ ɢ ɠ ʛ ħ ʜ ɧ ʄ ʪ ʫ ɬ 𝼄 ꞎ ɮ 𝼅 ʎ 𝼆 ø ɶ ɷ q ɺ 𝼈 ɽ ɾ ʀ ʨ"⟩,
   ⟨0x107ac, 0x107b0, "ʦ ꭧ ʧ ʈ ⱱ"⟩, ⟨0x107b2, 0x107ba, "ʏ ʡ ʢ ʘ ǀ ǁ ǂ 𝼊 𝼞"⟩,
   ⟨0x1ccd6, 0x1ccf9, "a b c d e f g h i j k l m n o p q r s t u v w x y z 0 1 2 3 4 5 6 7 8 9"⟩,
   ⟨0x1d400, 0x1d424, "a b c d e f g h i j k l m n o p q r s t u v w x y z a b c d e f g h i j k"⟩,
   ⟨0x1d425, 0x1d449, "l m n o p q r s t u v w x y z a b c d e f g h i j k l m n o p q r s t u v"⟩,
   ⟨0x1d44a, 0x1d454, "w x y z a b c d e f g"⟩,
   ⟨0x1d456, 0x1d47a, "i j k l m n o p q r s t u v w x y z a b c d e f g h i j k l m n o p q r s"⟩,
   ⟨0x1d47b, 0x1d49c, "t u v w x y z a b c d e f g h i j k l m n o p q r s t u v w x y z a"⟩,
   ⟨0x1d49e, 0x1d49f, "c d"⟩, ⟨0x1d4a2, 0x1d4a2, "g"⟩, ⟨0x1d4a5, 0x1d4a6, "j k"⟩,
   ⟨0x1d4a9, 0x1d4ac, "n o p q"⟩, ⟨0x1d4ae, 0x1d4b9, "s t u v w x y z a b c d"⟩,
   ⟨0x1d4bb, 0x1d4bb, "f"⟩, ⟨0x1d4bd, 0x1d4c3, "h i j k l m n"⟩,
   ⟨0x1d4c5, 0x1d4e9, "p q r s t u v w x y z a b c d e f g h i j k l m n o p q r s t u v w x y z"⟩,
   ⟨0x1d4ea, 0x1d505, "a b c d e f g h i j k l m n o p q r s t u v w x y z a b"⟩,
   ⟨0x1d507, 0x1d50a, "d e f g"⟩, ⟨0x1d50d, 0x1d514, "j k l m n o p q"⟩,
   ⟨0x1d516, 0x1d51c, "s t u v w x y"⟩,
   ⟨0x1d51e, 0x1d539, "a b c d e f g h i j k l m n o p q r s t u v w x y z a b"⟩,
   ⟨0x1d53b, 0x1d53e, "d e f g"⟩, ⟨0x1d540, 0x1d544, "i j k l m"⟩, ⟨0x1d546, 0x1d546, "o"⟩,
   ⟨0x1d54a, 0x1d550, "s t u v w x y"⟩,
   ⟨0x1d552, 0x1d576, "a b c d e f g h i j k l m n o p q r s t u v w x y z a b c d e f g h i j k"⟩,
   ⟨0x1d577, 0x1d59b, "l m n o p q r s t u v w x y z a b c d e f g h i j k l m n o p q r s t u v"⟩,
   ⟨0x1d59c, 0x1d5c0, "w x y z a b c d e f g h i j k l m n o p q r s t u v w x y z a b c d e f g"⟩,
   ⟨0x1d5c1, 0x1d5e5, "h i j k l m n o p q r s t u v w x y z a b c d e f g h i j k l m n o p q r"⟩,
   ⟨0x1d5e6, 0x1d60a, "s t u v w x y z a b c d e f g h i j k l m n o p q r s t u v w x y z a b c"⟩,
   ⟨0x1d60b, 0x1d62f, "d e f g h i j k l m n o p q r s t u v w x y z a b c d e f g h i j k l m n"⟩,
   ⟨0x1d630, 0x1d654, "o p q r s t u v w x y z a b c d e f g h i j k l m n o p q r s t u v w x y"⟩,
   ⟨0x1d655, 0x1d679, "z a b c d e f g h i j k l m n o p q r s t u v w x y z a b c d e f g h i j"⟩,
   ⟨0x1d67a, 0x1d69e, "k l m n o p q r s t u v w x y z a b c d e f g h i j k l m n o p q r s t u"⟩,
   ⟨0x1d69f, 0x1d6a5, "v w x y z ı ȷ"⟩,
   ⟨0x1d6a8, 0x1d6cc, "α β γ δ ε ζ η θ ι κ λ μ ν ξ ο π ρ θ σ τ υ φ χ ψ ω ∇ α β γ δ ε ζ η θ ι κ λ"⟩,
   ⟨0x1d6cd, 0x1d6f1, "μ ν ξ ο π ρ σ σ τ υ φ χ ψ ω ∂ ε θ κ φ ρ π α β γ δ ε ζ η θ ι κ λ μ ν ξ ο π"⟩,
   ⟨0x1d6f2, 0x1d716, "ρ θ σ τ υ φ χ ψ ω ∇ α β γ δ ε ζ η θ ι κ λ μ ν ξ ο π ρ σ σ τ υ φ χ ψ ω ∂ ε"⟩,
   ⟨0x1d717, 0x1d73b, "θ κ φ ρ π α β γ δ ε ζ η θ ι κ λ μ ν ξ ο π ρ θ σ τ υ φ χ ψ ω ∇ α β γ δ ε ζ"⟩,
   ⟨0x1d73c, 0x1d760, "η θ ι κ λ μ ν ξ ο π ρ σ σ τ υ φ χ ψ ω ∂ ε θ κ φ ρ π α β γ δ ε ζ η θ ι κ λ"⟩,
   ⟨0x1d761, 0x1d785, "μ ν ξ ο π ρ θ σ τ υ φ χ ψ ω ∇ α β γ δ ε ζ η θ ι κ λ μ ν ξ ο π ρ σ σ τ υ φ"⟩,
   ⟨0x1d786, 0x1d7aa, "χ ψ ω ∂ ε θ κ φ ρ π α β γ δ ε ζ η θ ι κ λ μ ν ξ ο π ρ θ σ τ υ φ χ ψ ω ∇ α"⟩,
   ⟨0x1d7ab, 0x1d7cb, "β γ δ ε ζ η θ ι κ λ μ ν ξ ο π ρ σ σ τ υ φ χ ψ ω ∂ ε θ κ φ ρ π ϝ ϝ"⟩,
   ⟨0x1d7ce, 0x1d7f2, "0 1 2 3 4 5 6 7 8 9 0 1 2 3 4 5 6 7 8 9 0 1 2 3 4 5 6 7 8 9 0 1 2 3 4 5 6"⟩,
   ⟨0x1d7f3, 0x1d7ff, "7 8 9 0 1 2 3 4 5 6 7 8 9"⟩,
   ⟨0x1e030, 0x1e054, "а б в г д е ж з и к л м о п р с т у ф х ц ч ш ы э ю ꚉ ә і ј ө ү ӏ а б в г"⟩,
   ⟨0x1e055, 0x1e06d, "д е ж з и к л о п с у ф х ц ч ш ъ ы ґ і ѕ џ ҫ ꙑ ұ"⟩,
   ⟨0x1ee00, 0x1ee03, "\u0627 \u0628 \u062c \u062f"⟩,
   ⟨0x1ee05, 0x1ee0e, "\u0648 \u0632 \u062d \u0637 \u064a \u0643 \u0644 \u0645 \u0646 \u0633"⟩,
   ⟨0x1ee0f, 0x1ee18, "\u0639 \u0641 \u0635 \u0642 \u0631 \u0634 \u062a \u062b \u062e \u0630"⟩,
   ⟨0x1ee19, 0x1ee1f, "\u0636 \u0638 \u063a \u066e \u06ba \u06a1 \u066f"⟩,
   ⟨0x1ee21, 0x1ee22, "\u0628 \u062c"⟩, ⟨0x1ee24, 0x1ee24, "\u0647"⟩, ⟨0x1ee27, 0x1ee27, "\u062d"⟩,
   ⟨0x1ee29, 0x1ee32, "\u064a \u0643 \u0644 \u0645 \u0646 \u0633 \u0639 \u0641 \u0635 \u0642"⟩,
   ⟨0x1ee34, 0x1ee37, "\u0634 \u062a \u062b \u062e"⟩, ⟨0x1ee39, 0x1ee39, "\u0636"⟩,
   ⟨0x1ee3b, 0x1ee3b, "\u063a"⟩, ⟨0x1ee42, 0x1ee42, "\u062c"⟩, ⟨0x1ee47, 0x1ee47, "\u062d"⟩,
   ⟨0x1ee49, 0x1ee49, "\u064a"⟩, ⟨0x1ee4b, 0x1ee4b, "\u0644"⟩,
   ⟨0x1ee4d, 0x1ee4f, "\u0646 \u0633 \u0639"⟩, ⟨0x1ee51, 0x1ee52, "\u0635 \u0642"⟩,
   ⟨0x1ee54, 0x1ee54, "\u0634"⟩, ⟨0x1ee57, 0x1ee57, "\u062e"⟩, ⟨0x1ee59, 0x1ee59, "\u0636"⟩,
   ⟨0x1ee5b, 0x1ee5b, "\u063a"⟩, ⟨0x1ee5d, 0x1ee5d, "\u06ba"⟩, ⟨0x1ee5f, 0x1ee5f, "\u066f"⟩,
   ⟨0x1ee61, 0x1ee62, "\u0628 \u062c"⟩, ⟨0x1ee64, 0x1ee64, "\u0647"⟩,
   ⟨0x1ee67, 0x1ee6a, "\u062d \u0637 \u064a \u0643"⟩,
   ⟨0x1ee6c, 0x1ee72, "\u0645 \u0646 \u0633 \u0639 \u0641 \u0635 \u0642"⟩,
   ⟨0x1ee74, 0x1ee77, "\u0634 \u062a \u062b \u062e"⟩,
   ⟨0x1ee79, 0x1ee7c, "\u0636 \u0638 \u063a \u066e"⟩, ⟨0x1ee7e, 0x1ee7e, "\u06a1"⟩,
   ⟨0x1ee80, 0x1ee89, "\u0627 \u0628 \u062c \u062f \u0647 \u0648 \u0632 \u062d \u0637 \u064a"⟩,
   ⟨0x1ee8b, 0x1ee94, "\u0644 \u0645 \u0646 \u0633 \u0639 \u0641 \u0635 \u0642 \u0631 \u0634"⟩,
   ⟨0x1ee95, 0x1ee9b, "\u062a \u062b \u062e \u0630 \u0636 \u0638 \u063a"⟩,
   ⟨0x1eea1, 0x1eea3, "\u0628 \u062c \u062f"⟩,
   ⟨0x1eea5, 0x1eea9, "\u0648 \u0632 \u062d \u0637 \u064a"⟩,
   ⟨0x1eeab, 0x1eeb4, "\u0644 \u0645 \u0646 \u0633 \u0639 \u0641 \u0635 \u0642 \u0631 \u0634"⟩,
   ⟨0x1eeb5, 0x1eebb, "\u062a \u062b \u062e \u0630 \u0636 \u0638 \u063a"⟩,
   ⟨0x1f101, 0x1f10a, "0, 1, 2, 3, 4, 5, 6, 7, 8, 9,"⟩,
   ⟨0x1f110, 0x1f121, "(a) (b) (c) (d) (e) (f) (g) (h) (i) (j) (k) (l) (m) (n) (o) (p) (q) (r)"⟩,
   ⟨0x1f122, 0x1f12e, "(s) (t) (u) (v) (w) (x) (y) (z) 〔s〕 c r cd wz"⟩,
   ⟨0x1f130, 0x1f14f, "a b c d e f g h i j k l m n o p q r s t u v w x y z hv mv sd ss ppv wc"⟩,
   ⟨0x1f16a, 0x1f16c, "mc md mr"⟩, ⟨0x1f190, 0x1f190, "dj"⟩, ⟨0x1f200, 0x1f202, "ほか ココ サ"⟩,
   ⟨0x1f210, 0x1f234, "手 字 双 デ 二 多 解 天 交 映 無 料 前 後 再 新 初 終 生 販 声 吹 演 投 捕 一 三 遊 左 中 右 指 走 打 禁 空 合"⟩,
   ⟨0x1f235, 0x1f23b, "満 有 月 申 割 営 配"⟩, ⟨0x1f240, 0x1f248, "〔本〕 〔三〕 〔二〕 〔安〕 〔点〕 〔打〕 〔盗〕 〔勝〕 〔敗〕"⟩,
   ⟨0x1f250, 0x1f251, "得 可"⟩, ⟨0x1fbf0, 0x1fbf9, "0 1 2 3 4 5 6 7 8 9"⟩]

end NodeSupply.Text
