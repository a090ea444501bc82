import Chatbot.Unicode.Packed

/-!
# Scripts

Every code point belongs to one script (Unicode character database, version 16.0), `Common` and `Inherited` for
those shared by several and `Unknown` for the unassigned ones; its script extensions are the
scripts it is used with, usually its script alone. Both tables are partitions of all code
points into runs, packed as text: each run is its length less one and a number, that of the
script in `scriptNames` or of the set in `scriptSets`, both in base 36.
-/

namespace Chatbot.Unicode

/-- The scripts, by their long names, each with all its names. -/
def scriptNames : Array (String × List String) := #[
  ("Adlam", ["Adlm", "Adlam"]),
  ("Ahom", ["Ahom", "Ahom"]),
  ("Anatolian_Hieroglyphs", ["Hluw", "Anatolian_Hieroglyphs"]),
  ("Arabic", ["Arab", "Arabic"]),
  ("Armenian", ["Armn", "Armenian"]),
  ("Avestan", ["Avst", "Avestan"]),
  ("Balinese", ["Bali", "Balinese"]),
  ("Bamum", ["Bamu", "Bamum"]),
  ("Bassa_Vah", ["Bass", "Bassa_Vah"]),
  ("Batak", ["Batk", "Batak"]),
  ("Bengali", ["Beng", "Bengali"]),
  ("Bhaiksuki", ["Bhks", "Bhaiksuki"]),
  ("Bopomofo", ["Bopo", "Bopomofo"]),
  ("Brahmi", ["Brah", "Brahmi"]),
  ("Braille", ["Brai", "Braille"]),
  ("Buginese", ["Bugi", "Buginese"]),
  ("Buhid", ["Buhd", "Buhid"]),
  ("Canadian_Aboriginal", ["Cans", "Canadian_Aboriginal"]),
  ("Carian", ["Cari", "Carian"]),
  ("Caucasian_Albanian", ["Aghb", "Caucasian_Albanian"]),
  ("Chakma", ["Cakm", "Chakma"]),
  ("Cham", ["Cham", "Cham"]),
  ("Cherokee", ["Cher", "Cherokee"]),
  ("Chorasmian", ["Chrs", "Chorasmian"]),
  ("Common", ["Zyyy", "Common"]),
  ("Coptic", ["Copt", "Coptic", "Qaac"]),
  ("Cuneiform", ["Xsux", "Cuneiform"]),
  ("Cypriot", ["Cprt", "Cypriot"]),
  ("Cypro_Minoan", ["Cpmn", "Cypro_Minoan"]),
  ("Cyrillic", ["Cyrl", "Cyrillic"]),
  ("Deseret", ["Dsrt", "Deseret"]),
  ("Devanagari", ["Deva", "Devanagari"]),
  ("Dives_Akuru", ["Diak", "Dives_Akuru"]),
  ("Dogra", ["Dogr", "Dogra"]),
  ("Duployan", ["Dupl", "Duployan"]),
  ("Egyptian_Hieroglyphs", ["Egyp", "Egyptian_Hieroglyphs"]),
  ("Elbasan", ["Elba", "Elbasan"]),
  ("Elymaic", ["Elym", "Elymaic"]),
  ("Ethiopic", ["Ethi", "Ethiopic"]),
  ("Garay", ["Gara", "Garay"]),
  ("Georgian", ["Geor", "Georgian"]),
  ("Glagolitic", ["Glag", "Glagolitic"]),
  ("Gothic", ["Goth", "Gothic"]),
  ("Grantha", ["Gran", "Grantha"]),
  ("Greek", ["Grek", "Greek"]),
  ("Gujarati", ["Gujr", "Gujarati"]),
  ("Gunjala_Gondi", ["Gong", "Gunjala_Gondi"]),
  ("Gurmukhi", ["Guru", "Gurmukhi"]),
  ("Gurung_Khema", ["Gukh", "Gurung_Khema"]),
  ("Han", ["Hani", "Han"]),
  ("Hangul", ["Hang", "Hangul"]),
  ("Hanifi_Rohingya", ["Rohg", "Hanifi_Rohingya"]),
  ("Hanunoo", ["Hano", "Hanunoo"]),
  ("Hatran", ["Hatr", "Hatran"]),
  ("Hebrew", ["Hebr", "Hebrew"]),
  ("Hiragana", ["Hira", "Hiragana"]),
  ("Imperial_Aramaic", ["Armi", "Imperial_Aramaic"]),
  ("Inherited", ["Zinh", "Inherited", "Qaai"]),
  ("Inscriptional_Pahlavi", ["Phli", "Inscriptional_Pahlavi"]),
  ("Inscriptional_Parthian", ["Prti", "Inscriptional_Parthian"]),
  ("Javanese", ["Java", "Javanese"]),
  ("Kaithi", ["Kthi", "Kaithi"]),
  ("Kannada", ["Knda", "Kannada"]),
  ("Katakana", ["Kana", "Katakana"]),
  ("Kawi", ["Kawi", "Kawi"]),
  ("Kayah_Li", ["Kali", "Kayah_Li"]),
  ("Kharoshthi", ["Khar", "Kharoshthi"]),
  ("Khitan_Small_Script", ["Kits", "Khitan_Small_Script"]),
  ("Khmer", ["Khmr", "Khmer"]),
  ("Khojki", ["Khoj", "Khojki"]),
  ("Khudawadi", ["Sind", "Khudawadi"]),
  ("Kirat_Rai", ["Krai", "Kirat_Rai"]),
  ("Lao", ["Laoo", "Lao"]),
  ("Latin", ["Latn", "Latin"]),
  ("Lepcha", ["Lepc", "Lepcha"]),
  ("Limbu", ["Limb", "Limbu"]),
  ("Linear_A", ["Lina", "Linear_A"]),
  ("Linear_B", ["Linb", "Linear_B"]),
  ("Lisu", ["Lisu", "Lisu"]),
  ("Lycian", ["Lyci", "Lycian"]),
  ("Lydian", ["Lydi", "Lydian"]),
  ("Mahajani", ["Mahj", "Mahajani"]),
  ("Makasar", ["Maka", "Makasar"]),
  ("Malayalam", ["Mlym", "Malayalam"]),
  ("Mandaic", ["Mand", "Mandaic"]),
  ("Manichaean", ["Mani", "Manichaean"]),
  ("Marchen", ["Marc", "Marchen"]),
  ("Masaram_Gondi", ["Gonm", "Masaram_Gondi"]),
  ("Medefaidrin", ["Medf", "Medefaidrin"]),
  ("Meetei_Mayek", ["Mtei", "Meetei_Mayek"]),
  ("Mende_Kikakui", ["Mend", "Mende_Kikakui"]),
  ("Meroitic_Cursive", ["Merc", "Meroitic_Cursive"]),
  ("Meroitic_Hieroglyphs", ["Mero", "Meroitic_Hieroglyphs"]),
  ("Miao", ["Plrd", "Miao"]),
  ("Modi", ["Modi", "Modi"]),
  ("Mongolian", ["Mong", "Mongolian"]),
  ("Mro", ["Mroo", "Mro"]),
  ("Multani", ["Mult", "Multani"]),
  ("Myanmar", ["Mymr", "Myanmar"]),
  ("Nabataean", ["Nbat", "Nabataean"]),
  ("Nag_Mundari", ["Nagm", "Nag_Mundari"]),
  ("Nandinagari", ["Nand", "Nandinagari"]),
  ("New_Tai_Lue", ["Talu", "New_Tai_Lue"]),
  ("Newa", ["Newa", "Newa"]),
  ("Nko", ["Nkoo", "Nko"]),
  ("Nushu", ["Nshu", "Nushu"]),
  ("Nyiakeng_Puachue_Hmong", ["Hmnp", "Nyiakeng_Puachue_Hmong"]),
  ("Ogham", ["Ogam", "Ogham"]),
  ("Ol_Chiki", ["Olck", "Ol_Chiki"]),
  ("Ol_Onal", ["Onao", "Ol_Onal"]),
  ("Old_Hungarian", ["Hung", "Old_Hungarian"]),
  ("Old_Italic", ["Ital", "Old_Italic"]),
  ("Old_North_Arabian", ["Narb", "Old_North_Arabian"]),
  ("Old_Permic", ["Perm", "Old_Permic"]),
  ("Old_Persian", ["Xpeo", "Old_Persian"]),
  ("Old_Sogdian", ["Sogo", "Old_Sogdian"]),
  ("Old_South_Arabian", ["Sarb", "Old_South_Arabian"]),
  ("Old_Turkic", ["Orkh", "Old_Turkic"]),
  ("Old_Uyghur", ["Ougr", "Old_Uyghur"]),
  ("Oriya", ["Orya", "Oriya"]),
  ("Osage", ["Osge", "Osage"]),
  ("Osmanya", ["Osma", "Osmanya"]),
  ("Pahawh_Hmong", ["Hmng", "Pahawh_Hmong"]),
  ("Palmyrene", ["Palm", "Palmyrene"]),
  ("Pau_Cin_Hau", ["Pauc", "Pau_Cin_Hau"]),
  ("Phags_Pa", ["Phag", "Phags_Pa"]),
  ("Phoenician", ["Phnx", "Phoenician"]),
  ("Psalter_Pahlavi", ["Phlp", "Psalter_Pahlavi"]),
  ("Rejang", ["Rjng", "Rejang"]),
  ("Runic", ["Runr", "Runic"]),
  ("Samaritan", ["Samr", "Samaritan"]),
  ("Saurashtra", ["Saur", "Saurashtra"]),
  ("Sharada", ["Shrd", "Sharada"]),
  ("Shavian", ["Shaw", "Shavian"]),
  ("Siddham", ["Sidd", "Siddham"]),
  ("SignWriting", ["Sgnw", "SignWriting"]),
  ("Sinhala", ["Sinh", "Sinhala"]),
  ("Sogdian", ["Sogd", "Sogdian"]),
  ("Sora_Sompeng", ["Sora", "Sora_Sompeng"]),
  ("Soyombo", ["Soyo", "Soyombo"]),
  ("Sundanese", ["Sund", "Sundanese"]),
  ("Sunuwar", ["Sunu", "Sunuwar"]),
  ("Syloti_Nagri", ["Sylo", "Syloti_Nagri"]),
  ("Syriac", ["Syrc", "Syriac"]),
  ("Tagalog", ["Tglg", "Tagalog"]),
  ("Tagbanwa", ["Tagb", "Tagbanwa"]),
  ("Tai_Le", ["Tale", "Tai_Le"]),
  ("Tai_Tham", ["Lana", "Tai_Tham"]),
  ("Tai_Viet", ["Tavt", "Tai_Viet"]),
  ("Takri", ["Takr", "Takri"]),
  ("Tamil", ["Taml", "Tamil"]),
  ("Tangsa", ["Tnsa", "Tangsa"]),
  ("Tangut", ["Tang", "Tangut"]),
  ("Telugu", ["Telu", "Telugu"]),
  ("Thaana", ["Thaa", "Thaana"]),
  ("Thai", ["Thai", "Thai"]),
  ("Tibetan", ["Tibt", "Tibetan"]),
  ("Tifinagh", ["Tfng", "Tifinagh"]),
  ("Tirhuta", ["Tirh", "Tirhuta"]),
  ("Todhri", ["Todr", "Todhri"]),
  ("Toto", ["Toto", "Toto"]),
  ("Tulu_Tigalari", ["Tutg", "Tulu_Tigalari"]),
  ("Ugaritic", ["Ugar", "Ugaritic"]),
  ("Unknown", ["Zzzz", "Unknown"]),
  ("Vai", ["Vaii", "Vai"]),
  ("Vithkuqi", ["Vith", "Vithkuqi"]),
  ("Wancho", ["Wcho", "Wancho"]),
  ("Warang_Citi", ["Wara", "Warang_Citi"]),
  ("Yezidi", ["Yezi", "Yezidi"]),
  ("Yi", ["Yiii", "Yi"]),
  ("Zanabazar_Square", ["Zanb", "Zanabazar_Square"]),
  ("Katakana_Or_Hiragana", ["Hrkt", "Katakana_Or_Hiragana"])]

/-- The sets of scripts of the script extensions, by their numbers in `scriptNames`. -/
def scriptSets : Array (List Nat) := #[
  [0],
  [1],
  [2],
  [3],
  [4],
  [5],
  [6],
  [7],
  [8],
  [9],
  [10],
  [11],
  [12],
  [13],
  [14],
  [15],
  [16],
  [17],
  [18],
  [19],
  [20],
  [21],
  [22],
  [23],
  [24],
  [25],
  [26],
  [27],
  [28],
  [29],
  [30],
  [31],
  [32],
  [33],
  [34],
  [35],
  [36],
  [37],
  [38],
  [39],
  [40],
  [41],
  [42],
  [43],
  [44],
  [45],
  [46],
  [47],
  [48],
  [49],
  [50],
  [51],
  [52],
  [53],
  [54],
  [55],
  [56],
  [57],
  [58],
  [59],
  [60],
  [61],
  [62],
  [63],
  [64],
  [65],
  [66],
  [67],
  [68],
  [69],
  [70],
  [71],
  [72],
  [73],
  [74],
  [75],
  [76],
  [77],
  [78],
  [79],
  [80],
  [81],
  [82],
  [83],
  [84],
  [85],
  [86],
  [87],
  [88],
  [89],
  [90],
  [91],
  [92],
  [93],
  [94],
  [95],
  [96],
  [97],
  [98],
  [99],
  [100],
  [101],
  [102],
  [103],
  [104],
  [105],
  [106],
  [107],
  [108],
  [109],
  [110],
  [111],
  [112],
  [113],
  [114],
  [115],
  [116],
  [117],
  [118],
  [119],
  [120],
  [121],
  [122],
  [123],
  [124],
  [125],
  [126],
  [127],
  [128],
  [129],
  [130],
  [131],
  [132],
  [133],
  [134],
  [135],
  [136],
  [137],
  [138],
  [139],
  [140],
  [141],
  [142],
  [143],
  [144],
  [145],
  [146],
  [147],
  [148],
  [149],
  [150],
  [151],
  [152],
  [153],
  [154],
  [155],
  [156],
  [157],
  [158],
  [159],
  [160],
  [161],
  [162],
  [163],
  [164],
  [165],
  [166],
  [167],
  [168],
  [169],
  [170],
  [3, 25],
  [3, 51],
  [3, 104],
  [3, 143],
  [3, 154],
  [10, 31],
  [12, 49],
  [15, 60],
  [27, 77],
  [29, 41],
  [29, 73],
  [29, 113],
  [29, 143],
  [31, 43],
  [31, 101],
  [31, 132],
  [31, 150],
  [40, 73],
  [43, 150],
  [45, 69],
  [47, 97],
  [49, 73],
  [55, 63],
  [62, 101],
  [73, 95],
  [85, 118],
  [95, 125],
  [3, 143, 154],
  [3, 154, 168],
  [10, 20, 142],
  [20, 98, 146],
  [27, 76, 77],
  [28, 27, 77],
  [31, 43, 62],
  [31, 43, 73],
  [49, 55, 63],
  [65, 73, 98],
  [10, 31, 43, 62],
  [16, 52, 145, 144],
  [31, 33, 61, 81],
  [12, 50, 49, 55, 63],
  [3, 104, 51, 143, 154, 168],
  [12, 50, 49, 55, 63, 169],
  [31, 62, 83, 119, 150, 153],
  [0, 3, 104, 51, 143, 154, 168],
  [10, 31, 43, 62, 101, 119, 153, 158],
  [0, 3, 84, 85, 118, 127, 51, 137, 143],
  [31, 33, 45, 47, 69, 61, 81, 94, 70, 149, 158],
  [10, 31, 43, 45, 47, 62, 73, 83, 119, 150, 153, 158],
  [10, 31, 43, 45, 47, 62, 73, 83, 119, 132, 150, 153, 158],
  [31, 33, 45, 47, 69, 62, 61, 81, 94, 101, 70, 149, 158],
  [31, 33, 45, 47, 69, 62, 61, 81, 83, 94, 101, 70, 149, 158],
  [10, 31, 33, 46, 87, 43, 45, 47, 62, 81, 83, 101, 119, 70, 136, 142, 149, 150, 153, 158],
  [10, 31, 33, 46, 87, 43, 45, 47, 62, 75, 81, 83, 101, 119, 70, 136, 142, 149, 150, 153, 158]]

/-- The runs of scripts, packed. -/
def packedScripts : String :=
  "1s.o,p.21,5.o,p.21,1a.o,0.21,e.o,0.21,4.o,m.21,0.o,u.21,0.o,cg.21,12.o,4.21,4.o,1.c,j.o,33.1l,3." ++
  "18,0.o,2.18,1.4j,3.18,0.o,0.18,3.4j,0.18,0.o,0.18,0.o,2.18,0.4j,0.18,0.4j,j.18,0.4j,1q.18,d.p,f." ++
  "18,3o.t,1.1l,4o.t,0.4j,11.4,1.4j,1d.4,1.4j,2.4,0.4j,1i.1i,7.4j,q.1i,3.4j,5.1i,a.4j,4.3,0.o,5.3,0" ++
  ".o,d.3,0.o,2.3,0.o,v.3,0.o,9.3,a.1l,p.3,0.1l,2z.3,0.o,x.3,d.3z,0.4j,1n.3z,1.4j,2.3z,1b.3,1d.4a,d" ++
  ".4j,1m.2w,1.4j,2.2w,19.3m,1.4j,e.3m,0.4j,r.2c,1.4j,0.2c,0.4j,a.3z,4.4j,u.3,0.4j,1.3,4.4j,22.3,0." ++
  "o,s.3,28.v,3.1l,e.v,1.o,p.v,3.a,0.4j,7.a,1.4j,1.a,1.4j,l.a,0.4j,6.a,0.4j,0.a,2.4j,3.a,1.4j,8.a,1" ++
  ".4j,1.a,1.4j,3.a,7.4j,0.a,3.4j,1.a,0.4j,4.a,1.4j,o.a,1.4j,2.1b,0.4j,5.1b,3.4j,1.1b,1.4j,l.1b,0.4" ++
  "j,6.1b,0.4j,1.1b,0.4j,1.1b,0.4j,1.1b,1.4j,0.1b,0.4j,4.1b,3.4j,1.1b,1.4j,2.1b,2.4j,0.1b,6.4j,3.1b" ++
  ",0.4j,0.1b,6.4j,g.1b,9.4j,2.19,0.4j,8.19,0.4j,2.19,0.4j,l.19,0.4j,6.19,0.4j,1.19,0.4j,4.19,1.4j," ++
  "9.19,0.4j,2.19,0.4j,2.19,1.4j,0.19,e.4j,3.19,1.4j,b.19,6.4j,6.19,0.4j,2.3b,0.4j,7.3b,1.4j,1.3b,1" ++
  ".4j,l.3b,0.4j,6.3b,0.4j,1.3b,0.4j,4.3b,1.4j,8.3b,1.4j,1.3b,1.4j,2.3b,6.4j,2.3b,3.4j,1.3b,0.4j,4." ++
  "3b,1.4j,h.3b,9.4j,1.46,0.4j,5.46,2.4j,2.46,0.4j,3.46,2.4j,1.46,0.4j,0.46,0.4j,1.46,2.4j,1.46,2.4" ++
  "j,2.46,2.4j,b.46,3.4j,4.46,2.4j,2.46,0.4j,3.46,1.4j,0.46,5.4j,0.46,d.4j,k.46,4.4j,c.49,0.4j,2.49" ++
  ",0.4j,m.49,0.4j,f.49,1.4j,8.49,0.4j,2.49,0.4j,3.49,6.4j,1.49,0.4j,2.49,1.4j,0.49,1.4j,3.49,1.4j," ++
  "9.49,6.4j,8.49,c.1q,0.4j,2.1q,0.4j,m.1q,0.4j,9.1q,0.4j,4.1q,1.4j,8.1q,0.4j,2.1q,0.4j,3.1q,6.4j,1" ++
  ".1q,5.4j,1.1q,0.4j,3.1q,1.4j,9.1q,0.4j,2.1q,b.4j,c.2b,0.4j,2.2b,0.4j,1e.2b,0.4j,2.2b,0.4j,5.2b,3" ++
  ".4j,f.2b,1.4j,p.2b,0.4j,2.3s,0.4j,h.3s,2.4j,n.3s,0.4j,8.3s,0.4j,0.3s,1.4j,6.3s,2.4j,0.3s,3.4j,5." ++
  "3s,0.4j,0.3s,0.4j,7.3s,5.4j,9.3s,1.4j,2.3s,b.4j,1l.4b,3.4j,0.o,r.4b,10.4j,1.20,0.4j,0.20,0.4j,4." ++
  "20,0.4j,n.20,0.4j,0.20,0.4j,m.20,1.4j,4.20,0.4j,0.20,0.4j,6.20,0.4j,9.20,1.4j,3.20,v.4j,1z.4c,0." ++
  "4j,z.4c,3.4j,12.4c,0.4j,z.4c,0.4j,e.4c,0.4j,6.4c,3.o,1.4c,10.4j,4f.2q,11.14,0.4j,0.14,4.4j,0.14," ++
  "1.4j,16.14,0.o,3.14,73.1e,20.12,0.4j,3.12,1.4j,6.12,0.4j,0.12,0.4j,3.12,1.4j,14.12,0.4j,3.12,1.4" ++
  "j,w.12,0.4j,3.12,1.4j,6.12,0.4j,0.12,0.4j,3.12,1.4j,e.12,0.4j,1k.12,0.4j,3.12,1.4j,1u.12,1.4j,v." ++
  "12,2.4j,p.12,5.4j,2d.m,1.4j,5.m,1.4j,hr.h,s.2z,2.4j,22.3l,2.o,a.3l,6.4j,l.40,8.4j,0.40,k.1g,1.o," ++
  "8.4j,j.g,b.4j,c.41,0.4j,2.41,0.4j,1.41,b.4j,2l.1w,1.4j,9.1w,5.4j,9.1w,5.4j,1.2n,1.o,0.2n,0.o,j.2" ++
  "n,5.4j,2g.2n,6.4j,16.2n,4.4j,1x.h,9.4j,u.23,0.4j,b.23,3.4j,b.23,3.4j,0.23,2.4j,b.23,t.42,1.4j,4." ++
  "42,a.4j,17.2u,3.4j,p.2u,5.4j,a.2u,2.4j,1.2u,v.1w,r.f,1.4j,1.f,1q.43,0.4j,s.43,1.4j,a.43,5.4j,9.4" ++
  "3,5.4j,d.43,1.4j,u.1l,1c.4j,24.6,0.4j,1d.6,1r.3w,1f.9,7.4j,3.9,1j.22,2.4j,e.22,2.4j,2.22,1b.30,a" ++
  ".t,4.4j,16.14,1.4j,2.14,7.3w,7.4j,2.1l,0.o,c.1l,0.o,6.1l,3.o,0.1l,5.o,0.1l,2.o,1.1l,0.o,4.4j,11." ++
  "21,4.18,0.t,1c.21,4.18,3.21,4.18,c.21,0.t,1x.21,0.18,1r.1l,73.21,l.18,1.4j,5.18,1.4j,11.18,1.4j," ++
  "5.18,1.4j,7.18,0.4j,0.18,0.4j,0.18,0.4j,0.18,0.4j,u.18,1.4j,1g.18,0.4j,e.18,0.4j,d.18,1.4j,5.18," ++
  "0.4j,i.18,1.4j,2.18,0.4j,8.18,0.4j,b.o,1.1l,2e.o,0.4j,a.o,0.21,1.4j,a.o,0.21,e.o,0.4j,c.21,2.4j," ++
  "w.o,e.4j,w.1l,e.4j,11.o,0.18,2.o,1.21,5.o,0.21,q.o,0.21,g.o,14.21,2.o,3.4j,ih.o,l.4j,a.o,k.4j,pr" ++
  ".o,73.e,hf.o,1.4j,v.o,0.4j,2w.o,2n.15,v.21,37.p,4.4j,6.p,11.14,0.4j,0.14,4.4j,0.14,1.4j,1j.4d,6." ++
  "4j,1.4d,d.4j,0.4d,m.12,8.4j,6.12,0.4j,6.12,0.4j,6.12,0.4j,6.12,0.4j,6.12,0.4j,6.12,0.4j,6.12,0.4" ++
  "j,6.12,0.4j,v.t,2l.o,x.4j,p.1d,0.4j,2g.1d,b.4j,5x.1d,p.4j,k.o,0.1d,0.o,0.1d,o.o,8.1d,3.1l,1.1e,7" ++
  ".o,3.1d,3.o,0.4j,2d.1j,1.4j,1.1l,1.o,2.1j,0.o,2h.1r,1.o,2.1r,4.4j,16.c,0.4j,2l.1e,0.4j,f.o,v.c,1" ++
  "1.o,8.4j,0.o,f.1r,u.1e,0.4j,1r.o,u.1e,28.o,1a.1r,0.o,2f.1r,4n.o,533.1d,1r.o,g73.1d,wc.4p,2.4j,1i" ++
  ".4p,8.4j,1b.26,8b.4k,j.4j,2n.t,2f.7,7.4j,x.o,2t.21,2.o,1u.21,1.4j,1.21,0.4j,0.21,0.4j,7.21,k.4j," ++
  "d.21,18.3y,2.4j,9.o,5.4j,1j.3h,7.4j,1x.3n,7.4j,b.3n,5.4j,v.v,19.1t,0.o,0.1t,z.3k,a.4j,0.3k,s.1e," ++
  "2.4j,25.1o,0.4j,0.o,9.1o,3.4j,1.1o,u.2q,0.4j,1i.l,8.4j,d.l,1.4j,9.l,1.4j,3.l,v.2q,1u.44,n.4j,4.4" ++
  "4,m.2h,9.4j,5.12,1.4j,5.12,1.4j,5.12,8.4j,6.12,0.4j,6.12,0.4j,16.21,0.o,8.21,0.18,3.21,1.o,3.4j," ++
  "27.m,19.2h,1.4j,9.2h,5.4j,8mb.1e,b.4j,m.1e,3.4j,1c.1e,6ir.4j,a5.1d,1.4j,2x.1d,11.4j,6.21,b.4j,4." ++
  "4,4.4j,p.1i,0.4j,4.1i,0.4j,0.1i,0.4j,1.1i,0.4j,1.1i,0.4j,9.1i,36.3,f.4j,a2.3,1.o,27.3,1.4j,1h.3," ++
  "6.4j,0.3,v.4j,f.3,f.1l,9.o,5.4j,d.1l,1.t,y.o,0.4j,i.o,0.4j,3.o,3.4j,4.3,0.4j,3q.3,1.4j,0.o,0.4j," ++
  "v.o,p.21,5.o,p.21,a.o,9.1r,0.o,18.1r,1.o,u.1e,2.4j,5.1e,1.4j,5.1e,1.4j,5.1e,1.4j,2.1e,2.4j,6.o,0" ++
  ".4j,6.o,9.4j,4.o,1.4j,b.25,0.4j,p.25,0.4j,i.25,0.4j,1.25,0.4j,e.25,1.4j,d.25,x.4j,3e.25,4.4j,2.o" ++
  ",3.4j,18.o,2.4j,8.o,26.18,0.4j,c.o,2.4j,0.18,1a.4j,18.o,0.1l,3l.4j,s.27,2.4j,1c.i,e.4j,0.1l,q.o," ++
  "3.4j,z.33,8.4j,2.33,q.16,4.4j,16.35,4.4j,t.4i,0.4j,0.4i,z.36,3.4j,d.36,15.4j,27.u,1b.3p,t.3d,1.4" ++
  "j,9.3d,5.4j,z.3c,3.4j,z.3c,3.4j,13.10,7.4j,1f.j,a.4j,0.j,a.4l,0.4j,e.4l,0.4j,6.4l,0.4j,1.4l,0.4j" ++
  ",a.4l,0.4j,e.4l,0.4j,6.4l,0.4j,1.4l,2.4j,1f.4f,b.4j,8m.24,8.4j,l.24,9.4j,7.24,n.4j,5.21,0.4j,15." ++
  "21,0.4j,8.21,1w.4j,5.r,1.4j,0.r,0.4j,17.r,0.4j,1.r,2.4j,0.r,1.4j,0.r,l.1k,0.4j,8.1k,v.3f,u.2r,7." ++
  "4j,8.2r,1b.4j,i.1h,0.4j,1.1h,4.4j,4.1h,r.3i,2.4j,0.3i,p.28,4.4j,0.28,1r.4j,v.2k,n.2j,3.4j,j.2j,1" ++
  ".4j,19.2j,3.1u,0.4j,1.1u,4.4j,7.1u,0.4j,2.1u,0.4j,s.1u,1.4j,2.1u,3.4j,9.1u,6.4j,8.1u,6.4j,v.38,v" ++
  ".34,v.4j,12.2d,3.4j,b.2d,8.4j,1h.5,2.4j,6.5,l.1n,1.4j,7.1n,i.1m,4.4j,7.1m,h.3j,6.4j,3.3j,b.4j,6." ++
  "3j,27.4j,20.39,1i.4j,1e.32,c.4j,1e.32,6.4j,5.32,13.1f,7.4j,9.1f,5.4j,11.13,2.4j,s.13,7.4j,1.13,5" ++
  "r.4j,u.3,0.4j,15.4o,0.4j,2.4o,1.4j,1.4o,f.4j,2.3,1i.4j,3.3,13.37,7.4j,15.3t,l.4j,p.3a,11.4j,r.n," ++
  "j.4j,m.11,8.4j,25.d,3.4j,z.d,8.4j,0.d,1u.1p,9.4j,0.1p,1.4j,o.3u,6.4j,9.3u,5.4j,1g.k,0.4j,h.k,7.4" ++
  "j,12.29,8.4j,2n.3o,0.4j,j.3s,a.4j,h.1x,0.4j,1a.1x,1p.4j,6.2p,0.4j,0.2p,0.4j,3.2p,0.4j,e.2p,0.4j," ++
  "a.2p,5.4j,1m.1y,4.4j,9.1y,5.4j,3.17,0.4j,7.17,1.4j,1.17,1.4j,l.17,0.4j,6.17,0.4j,1.17,0.4j,4.17," ++
  "0.4j,0.1l,8.17,1.4j,1.17,1.4j,2.17,1.4j,0.17,5.4j,0.17,4.4j,6.17,1.4j,6.17,2.4j,4.17,a.4j,9.4h,0" ++
  ".4j,0.4h,1.4j,0.4h,0.4j,11.4h,0.4j,9.4h,0.4j,0.4h,1.4j,0.4h,0.4j,3.4h,0.4j,9.4h,0.4j,1.4h,7.4j,1" ++
  ".4h,s.4j,2j.2v,0.4j,4.2v,t.4j,1z.4e,7.4j,9.4e,4l.4j,1h.3q,1.4j,11.3q,x.4j,1w.2m,a.4j,9.2m,5.4j,c" ++
  ".2n,i.4j,1l.45,5.4j,9.45,5.4j,j.2q,r.4j,q.1,1.4j,e.1,3.4j,m.1,54.4j,1n.x,2r.4j,2a.4n,b.4j,0.4n,6" ++
  ".w,1.4j,0.w,1.4j,7.w,0.4j,1.w,0.4j,t.w,0.4j,1.w,1.4j,b.w,8.4j,9.w,1x.4j,7.2t,1.4j,19.2t,1.4j,a.2" ++
  "t,q.4j,1z.4q,7.4j,2a.3v,c.4j,f.h,1k.3g,6.4j,9.v,51.4j,x.3x,d.4j,9.3x,5.4j,8.b,0.4j,18.b,0.4j,d.b" ++
  ",9.4j,s.b,2.4j,v.2e,1.4j,l.2e,0.4j,d.2e,20.4j,6.2f,0.4j,1.2f,0.4j,17.2f,2.4j,0.2f,0.4j,1.2f,0.4j" ++
  ",8.2f,7.4j,9.2f,5.4j,5.1a,0.4j,1.1a,0.4j,10.1a,0.4j,1.1a,0.4j,5.1a,6.4j,9.1a,8l.4j,o.2a,6.4j,g.1" ++
  "s,0.4j,14.1s,2.4j,s.1s,2c.4j,0.26,e.4j,1d.46,c.4j,0.46,pl.q,2t.4j,32.q,0.4j,4.q,a.4j,5f.q,217.4j" ++
  ",2q.s,c.4j,ut.z,9.4j,32y.z,4.4j,g6.2,5a0.4j,1l.1c,1c5.4j,fs.7,6.4j,u.2o,0.4j,9.2o,3.4j,1.2o,26.4" ++
  "7,0.4j,9.47,5.4j,t.8,1.4j,5.8,9.4j,1x.3e,9.4j,9.3e,0.4j,6.3e,0.4j,k.3e,4.4j,i.3e,bz.4j,1l.1z,5h." ++
  "4j,2i.2g,2s.4j,22.2l,3.4j,1k.2l,6.4j,g.2l,1r.4j,0.48,0.2x,1.1d,0.1v,a.4j,1.1d,d.4j,4qf.48,7.4j,l" ++
  "b.48,d1.1v,14.4j,0.1v,8.48,6w6.4j,3.1r,0.4j,6.1r,0.4j,1.1r,0.4j,0.1r,7y.1j,2.1r,e.4j,0.1j,s.4j,2" ++
  ".1j,1.4j,0.1r,d.4j,3.1r,7.4j,az.2x,1s3.4j,2y.y,4.4j,c.y,2.4j,8.y,6.4j,9.y,1.4j,3.y,3.o,317.4j,6x" ++
  ".o,5.4j,c3.o,23.4j,19.1l,1.4j,m.1l,8.4j,37.o,1n.4j,6t.o,9.4j,12.o,1.4j,1p.o,2.1l,g.o,7.1l,1.o,6." ++
  "1l,t.o,3.1l,1o.o,k.4j,1x.18,3d.4j,j.o,b.4j,j.o,b.4j,2e.o,8.4j,o.o,3q.4j,2c.o,0.4j,1y.o,0.4j,1.o," ++
  "1.4j,0.o,1.4j,1.o,1.4j,3.o,0.4j,b.o,0.4j,0.o,0.4j,6.o,0.4j,1s.o,0.4j,3.o,1.4j,7.o,0.4j,6.o,0.4j," ++
  "r.o,0.4j,3.o,0.4j,4.o,0.4j,0.o,2.4j,6.o,0.4j,9f.o,1.4j,83.o,1.4j,1d.o,i3.3r,e.4j,4.3r,0.4j,e.3r," ++
  "un.4j,u.21,5.4j,5.21,5w.4j,6.15,0.4j,g.15,1.4j,6.15,0.4j,1.15,0.4j,4.15,4.4j,1p.t,w.4j,0.t,33.4j" ++
  ",18.2y,2.4j,d.2y,1.4j,9.2y,3.4j,1.2y,8v.4j,u.4g,g.4j,1l.4m,4.4j,0.4m,cv.4j,15.2s,5x.4j,16.31,3.4" ++
  "j,0.31,db.4j,6.12,0.4j,3.12,0.4j,1.12,0.4j,e.12,0.4j,5g.2i,1.4j,f.2i,14.4j,23.0,3.4j,9.0,3.4j,1." ++
  "0,ls.4j,1v.o,23.4j,1o.o,5d.4j,3.3,0.4j,q.3,0.4j,1.3,0.4j,0.3,1.4j,0.3,0.4j,9.3,0.4j,3.3,0.4j,0.3" ++
  ",0.4j,0.3,5.4j,0.3,3.4j,0.3,0.4j,0.3,0.4j,0.3,0.4j,2.3,0.4j,1.3,0.4j,0.3,1.4j,0.3,0.4j,0.3,0.4j," ++
  "0.3,0.4j,0.3,0.4j,0.3,0.4j,1.3,0.4j,0.3,1.4j,3.3,0.4j,6.3,0.4j,3.3,0.4j,3.3,0.4j,0.3,0.4j,9.3,0." ++
  "4j,g.3,4.4j,2.3,0.4j,4.3,0.4j,g.3,1f.4j,1.3,7h.4j,17.o,3.4j,2r.o,b.4j,e.o,1.4j,e.o,0.4j,e.o,0.4j" ++
  ",10.o,9.4j,4t.o,1j.4j,p.o,0.1j,1.o,c.4j,17.o,3.4j,8.o,6.4j,1.o,d.4j,5.o,49.4j,rb.o,3.4j,g.o,2.4j" ++
  ",c.o,2.4j,3a.o,3.4j,2m.o,5.4j,b.o,3.4j,0.o,e.4j,b.o,3.4j,1j.o,7.4j,9.o,5.4j,13.o,7.4j,t.o,1.4j,b" ++
  ".o,3.4j,1.o,1p.4j,9f.o,b.4j,d.o,1.4j,c.o,2.4j,9.o,4.4j,1j.o,6.4j,e.o,1.4j,a.o,5.4j,8.o,6.4j,42.o" ++
  ",0.4j,2t.o,sl.4j,wyn.1d,v.4j,37d.1d,5.4j,65.1d,1.4j,4g1.1d,d.4j,5rk.1d,e.4j,h9.1d,1wh.4j,f1.1d,1" ++
  "5t.4j,3t6.1d,4.4j,38f.1d,f974.4j,0.o,t.4j,2n.o,3j.4j,6n.1l,47bj.4j"

/-- The runs of script extensions, packed. -/
def packedScriptSets : String :=
  "1s.o,p.21,5.o,p.21,1a.o,0.21,e.o,0.21,4.o,m.21,0.o,u.21,0.o,cg.21,12.o,4.21,4.o,1.c,j.o,1t.1l,0." ++
  "18,1.1l,0.18,s.1l,c.21,3.18,0.o,2.18,1.4j,3.18,0.o,0.18,3.4j,0.18,0.o,0.18,0.o,2.18,0.4j,0.18,0." ++
  "4j,j.18,0.4j,1q.18,d.p,f.18,3m.t,0.52,0.50,1.51,0.50,4n.t,0.4j,11.4,1.4j,1d.4,1.4j,2.4,0.4j,1i.1" ++
  "i,7.4j,q.1i,3.4j,5.1i,a.4j,4.3,0.o,5.3,0.5w,d.3,0.5w,0.5i,1.3,0.5z,v.3,0.61,9.3,a.4u,9.3,9.5j,5." ++
  "3,0.4u,2q.3,0.4s,7.3,0.o,x.3,d.3z,0.4j,1n.3z,1.4j,2.3z,1b.3,1d.4a,d.4j,1m.2w,1.4j,2.2w,19.3m,1.4" ++
  "j,e.3m,0.4j,r.2c,1.4j,0.2c,0.4j,a.3z,4.4j,u.3,0.4j,1.3,4.4j,22.3,0.o,s.3,28.v,0.64,0.63,1.1l,e.v" ++
  ",0.67,0.68,9.5u,f.v,3.a,0.4j,7.a,1.4j,1.a,1.4j,l.a,0.4j,6.a,0.4j,0.a,2.4j,3.a,1.4j,8.a,1.4j,1.a," ++
  "1.4j,3.a,7.4j,0.a,3.4j,1.a,0.4j,4.a,1.4j,9.5k,e.a,1.4j,2.1b,0.4j,5.1b,3.4j,1.1b,1.4j,l.1b,0.4j,6" ++
  ".1b,0.4j,1.1b,0.4j,1.1b,0.4j,1.1b,1.4j,0.1b,0.4j,4.1b,3.4j,1.1b,1.4j,2.1b,2.4j,0.1b,6.4j,3.1b,0." ++
  "4j,0.1b,6.4j,9.5b,6.1b,9.4j,2.19,0.4j,8.19,0.4j,2.19,0.4j,l.19,0.4j,6.19,0.4j,1.19,0.4j,4.19,1.4" ++
  "j,9.19,0.4j,2.19,0.4j,2.19,1.4j,0.19,e.4j,3.19,1.4j,9.5a,1.19,6.4j,6.19,0.4j,2.3b,0.4j,7.3b,1.4j" ++
  ",1.3b,1.4j,l.3b,0.4j,6.3b,0.4j,1.3b,0.4j,4.3b,1.4j,8.3b,1.4j,1.3b,1.4j,2.3b,6.4j,2.3b,3.4j,1.3b," ++
  "0.4j,4.3b,1.4j,h.3b,9.4j,1.46,0.4j,5.46,2.4j,2.46,0.4j,3.46,2.4j,1.46,0.4j,0.46,0.4j,1.46,2.4j,1" ++
  ".46,2.4j,2.46,2.4j,b.46,3.4j,4.46,2.4j,2.46,0.4j,3.46,1.4j,0.46,5.4j,0.46,d.4j,d.59,6.46,4.4j,c." ++
  "49,0.4j,2.49,0.4j,m.49,0.4j,f.49,1.4j,8.49,0.4j,2.49,0.4j,3.49,6.4j,1.49,0.4j,2.49,1.4j,0.49,1.4" ++
  "j,3.49,1.4j,9.49,6.4j,8.49,c.1q,0.4j,2.1q,0.4j,m.1q,0.4j,9.1q,0.4j,4.1q,1.4j,8.1q,0.4j,2.1q,0.4j" ++
  ",3.1q,6.4j,1.1q,5.4j,1.1q,0.4j,3.1q,1.4j,9.5e,0.4j,2.1q,b.4j,c.2b,0.4j,2.2b,0.4j,1e.2b,0.4j,2.2b" ++
  ",0.4j,5.2b,3.4j,f.2b,1.4j,p.2b,0.4j,2.3s,0.4j,h.3s,2.4j,n.3s,0.4j,8.3s,0.4j,0.3s,1.4j,6.3s,2.4j," ++
  "0.3s,3.4j,5.3s,0.4j,0.3s,0.4j,7.3s,5.4j,9.3s,1.4j,2.3s,b.4j,1l.4b,3.4j,0.o,r.4b,10.4j,1.20,0.4j," ++
  "0.20,0.4j,4.20,0.4j,n.20,0.4j,0.20,0.4j,m.20,1.4j,4.20,0.4j,0.20,0.4j,6.20,0.4j,9.20,1.4j,3.20,v" ++
  ".4j,1z.4c,0.4j,z.4c,3.4j,12.4c,0.4j,z.4c,0.4j,e.4c,0.4j,6.4c,3.o,1.4c,10.4j,1r.2q,9.5l,2d.2q,11." ++
  "14,0.4j,0.14,4.4j,0.14,1.4j,16.14,0.58,3.14,73.1e,20.12,0.4j,3.12,1.4j,6.12,0.4j,0.12,0.4j,3.12," ++
  "1.4j,14.12,0.4j,3.12,1.4j,w.12,0.4j,3.12,1.4j,6.12,0.4j,0.12,0.4j,3.12,1.4j,e.12,0.4j,1k.12,0.4j" ++
  ",3.12,1.4j,1u.12,1.4j,v.12,2.4j,p.12,5.4j,2d.m,1.4j,5.m,1.4j,hr.h,s.2z,2.4j,22.3l,2.o,a.3l,6.4j," ++
  "l.40,8.4j,0.40,k.1g,1.5t,8.4j,j.g,b.4j,c.41,0.4j,2.41,0.4j,1.41,b.4j,2l.1w,1.4j,9.1w,5.4j,9.1w,5" ++
  ".4j,1.2n,1.5h,0.2n,0.5h,j.2n,5.4j,2g.2n,6.4j,16.2n,4.4j,1x.h,9.4j,u.23,0.4j,b.23,3.4j,b.23,3.4j," ++
  "0.23,2.4j,b.23,t.42,1.4j,4.42,a.4j,17.2u,3.4j,p.2u,5.4j,a.2u,2.4j,1.2u,v.1w,r.f,1.4j,1.f,1q.43,0" ++
  ".4j,s.43,1.4j,a.43,5.4j,9.43,5.4j,d.43,1.4j,u.1l,1c.4j,24.6,0.4j,1d.6,1r.3w,1f.9,7.4j,3.9,1j.22," ++
  "2.4j,e.22,2.4j,2.22,1b.30,a.t,4.4j,16.14,1.4j,2.14,7.3w,7.4j,0.5s,0.v,0.5s,0.54,0.v,1.4w,0.56,0." ++
  "4w,0.56,0.5y,0.v,1.56,1.v,0.56,0.4w,6.v,0.55,0.4w,1.v,0.4w,3.v,0.60,0.54,0.5o,1.4w,0.a,1.54,0.2t" ++
  ",4.4j,11.21,4.18,0.t,1c.21,4.18,3.21,4.18,c.21,0.t,1x.21,2.18,1h.1l,0.53,0.1l,0.3z,4.1l,73.21,l." ++
  "18,1.4j,5.18,1.4j,11.18,1.4j,5.18,1.4j,7.18,0.4j,0.18,0.4j,0.18,0.4j,0.18,0.4j,u.18,1.4j,1g.18,0" ++
  ".4j,e.18,0.4j,d.18,1.4j,5.18,0.4j,i.18,1.4j,2.18,0.4j,8.18,0.4j,b.o,1.1l,w.o,0.5f,1g.o,0.4j,a.o," ++
  "0.21,1.4j,a.o,0.21,e.o,0.4j,c.21,2.4j,w.o,e.4j,v.1l,0.5p,e.4j,11.o,0.18,2.o,1.21,5.o,0.21,q.o,0." ++
  "21,g.o,14.21,2.o,3.4j,ih.o,l.4j,a.o,k.4j,pr.o,73.e,hf.o,1.4j,v.o,0.4j,2w.o,2n.15,v.21,37.p,4.4j," ++
  "6.p,11.14,0.4j,0.14,4.4j,0.14,1.4j,1j.4d,6.4j,1.4d,d.4j,0.4d,m.12,8.4j,6.12,0.4j,6.12,0.4j,6.12," ++
  "0.4j,6.12,0.4j,6.12,0.4j,6.12,0.4j,6.12,0.4j,6.12,0.4j,v.t,1u.o,0.50,p.o,x.4j,p.1d,0.4j,2g.1d,b." ++
  "4j,5x.1d,p.4j,g.o,1.5x,0.5v,0.o,2.1d,9.5x,0.o,0.5v,7.5x,3.5v,0.o,8.1d,3.4x,1.1e,0.5v,4.5d,0.o,0." ++
  "5v,3.1d,1.5q,1.1d,0.4j,2d.1j,1.4j,3.5d,2.1j,0.5d,2h.1r,0.5x,0.5d,2.1r,4.4j,16.c,0.4j,2l.1e,0.4j," ++
  "f.1d,v.c,z.1d,1.o,8.4j,0.o,f.1r,u.1e,0.4j,13.1d,n.o,u.1e,0.o,1c.1d,e.o,b.1d,3.o,1a.1r,0.1d,2f.1r" ++
  ",o.1d,9.o,4.1d,2n.o,u.1d,0.o,533.1d,1r.o,g73.1d,wc.4p,2.4j,1i.4p,8.4j,1b.26,8b.4k,j.4j,1a.t,0.50" ++
  ",1b.t,2f.7,7.4j,7.5c,p.o,2t.21,2.o,1u.21,1.4j,1.21,0.4j,0.21,0.4j,7.21,k.4j,d.21,18.3y,2.4j,2.66" ++
  ",2.65,3.62,5.4j,1j.3h,7.4j,1x.3n,7.4j,b.3n,5.4j,g.v,0.4w,0.v,0.57,b.v,19.1t,0.5r,0.1t,z.3k,a.4j," ++
  "0.3k,s.1e,2.4j,25.1o,0.4j,0.4y,9.1o,3.4j,1.1o,u.2q,0.4j,1i.l,8.4j,d.l,1.4j,9.l,1.4j,3.l,v.2q,1u." ++
  "44,n.4j,4.44,m.2h,9.4j,5.12,1.4j,5.12,1.4j,5.12,8.4j,6.12,0.4j,6.12,0.4j,16.21,0.o,8.21,0.18,3.2" ++
  "1,1.o,3.4j,27.m,19.2h,1.4j,9.2h,5.4j,8mb.1e,b.4j,m.1e,3.4j,1c.1e,6ir.4j,a5.1d,1.4j,2x.1d,11.4j,6" ++
  ".21,b.4j,4.4,4.4j,p.1i,0.4j,4.1i,0.4j,0.1i,0.4j,1.1i,0.4j,1.1i,0.4j,9.1i,36.3,f.4j,a2.3,1.4t,27." ++
  "3,1.4j,1h.3,6.4j,0.3,v.4j,1.3,0.4v,9.3,0.4v,1.3,f.1l,9.o,5.4j,d.1l,1.t,k.o,1.5v,b.o,0.4j,i.o,0.4" ++
  "j,3.o,3.4j,4.3,0.4j,3q.3,1.4j,0.o,0.4j,v.o,p.21,5.o,p.21,5.o,4.5x,9.1r,0.5d,18.1r,1.5d,u.1e,2.4j" ++
  ",5.1e,1.4j,5.1e,1.4j,5.1e,1.4j,2.1e,2.4j,6.o,0.4j,6.o,9.4j,4.o,1.4j,b.25,0.4j,p.25,0.4j,i.25,0.4" ++
  "j,1.25,0.4j,e.25,1.4j,d.25,x.4j,3e.25,4.4j,1.5n,0.4z,3.4j,18.5m,2.4j,8.4z,26.18,0.4j,c.o,2.4j,0." ++
  "18,1a.4j,18.o,0.1l,3l.4j,s.27,2.4j,1c.i,e.4j,r.4r,3.4j,z.33,8.4j,2.33,q.16,4.4j,16.35,4.4j,t.4i," ++
  "0.4j,0.4i,z.36,3.4j,d.36,15.4j,27.u,1b.3p,t.3d,1.4j,9.3d,5.4j,z.3c,3.4j,z.3c,3.4j,13.10,7.4j,1f." ++
  "j,a.4j,0.j,a.4l,0.4j,e.4l,0.4j,6.4l,0.4j,1.4l,0.4j,a.4l,0.4j,e.4l,0.4j,6.4l,0.4j,1.4l,2.4j,1f.4f" ++
  ",b.4j,8m.24,8.4j,l.24,9.4j,7.24,n.4j,5.21,0.4j,15.21,0.4j,8.21,1w.4j,5.r,1.4j,0.r,0.4j,17.r,0.4j" ++
  ",1.r,2.4j,0.r,1.4j,0.r,l.1k,0.4j,8.1k,v.3f,u.2r,7.4j,8.2r,1b.4j,i.1h,0.4j,1.1h,4.4j,4.1h,r.3i,2." ++
  "4j,0.3i,p.28,4.4j,0.28,1r.4j,v.2k,n.2j,3.4j,j.2j,1.4j,19.2j,3.1u,0.4j,1.1u,4.4j,7.1u,0.4j,2.1u,0" ++
  ".4j,s.1u,1.4j,2.1u,3.4j,9.1u,6.4j,8.1u,6.4j,v.38,v.34,v.4j,12.2d,3.4j,6.2d,0.5g,3.2d,8.4j,1h.5,2" ++
  ".4j,6.5,l.1n,1.4j,7.1n,i.1m,4.4j,7.1m,h.3j,6.4j,3.3j,b.4j,6.3j,27.4j,20.39,1i.4j,1e.32,c.4j,1e.3" ++
  "2,6.4j,5.32,13.1f,7.4j,9.1f,5.4j,11.13,2.4j,s.13,7.4j,1.13,5r.4j,u.3,0.4j,15.4o,0.4j,2.4o,1.4j,1" ++
  ".4o,f.4j,2.3,1i.4j,3.3,13.37,7.4j,15.3t,l.4j,p.3a,11.4j,r.n,j.4j,m.11,8.4j,25.d,3.4j,z.d,8.4j,0." ++
  "d,1u.1p,9.4j,0.1p,1.4j,o.3u,6.4j,9.3u,5.4j,1g.k,0.4j,h.k,7.4j,12.29,8.4j,2n.3o,0.4j,j.3s,a.4j,h." ++
  "1x,0.4j,1a.1x,1p.4j,6.2p,0.4j,0.2p,0.4j,3.2p,0.4j,e.2p,0.4j,a.2p,5.4j,1m.1y,4.4j,9.1y,5.4j,0.17," ++
  "0.59,0.17,0.59,0.4j,7.17,1.4j,1.17,1.4j,l.17,0.4j,6.17,0.4j,1.17,0.4j,4.17,0.4j,1.59,7.17,1.4j,1" ++
  ".17,1.4j,2.17,1.4j,0.17,5.4j,0.17,4.4j,6.17,1.4j,6.17,2.4j,4.17,a.4j,9.4h,0.4j,0.4h,1.4j,0.4h,0." ++
  "4j,11.4h,0.4j,9.4h,0.4j,0.4h,1.4j,0.4h,0.4j,3.4h,0.4j,9.4h,0.4j,1.4h,7.4j,1.4h,s.4j,2j.2v,0.4j,4" ++
  ".2v,t.4j,1z.4e,7.4j,9.4e,4l.4j,1h.3q,1.4j,11.3q,x.4j,1w.2m,a.4j,9.2m,5.4j,c.2n,i.4j,1l.45,5.4j,9" ++
  ".45,5.4j,j.2q,r.4j,q.1,1.4j,e.1,3.4j,m.1,54.4j,1n.x,2r.4j,2a.4n,b.4j,0.4n,6.w,1.4j,0.w,1.4j,7.w," ++
  "0.4j,1.w,0.4j,t.w,0.4j,1.w,1.4j,b.w,8.4j,9.w,1x.4j,7.2t,1.4j,19.2t,1.4j,a.2t,q.4j,1z.4q,7.4j,2a." ++
  "3v,c.4j,f.h,1k.3g,6.4j,9.v,51.4j,x.3x,d.4j,9.3x,5.4j,8.b,0.4j,18.b,0.4j,d.b,9.4j,s.b,2.4j,v.2e,1" ++
  ".4j,l.2e,0.4j,d.2e,20.4j,6.2f,0.4j,1.2f,0.4j,17.2f,2.4j,0.2f,0.4j,1.2f,0.4j,8.2f,7.4j,9.2f,5.4j," ++
  "5.1a,0.4j,1.1a,0.4j,10.1a,0.4j,1.1a,0.4j,5.1a,6.4j,9.1a,8l.4j,o.2a,6.4j,g.1s,0.4j,14.1s,2.4j,s.1" ++
  "s,2c.4j,0.26,e.4j,f.46,1.59,0.46,0.59,t.46,c.4j,0.46,pl.q,2t.4j,32.q,0.4j,4.q,a.4j,5f.q,217.4j,2" ++
  "q.s,c.4j,ut.z,9.4j,32y.z,4.4j,g6.2,5a0.4j,1l.1c,1c5.4j,fs.7,6.4j,u.2o,0.4j,9.2o,3.4j,1.2o,26.47," ++
  "0.4j,9.47,5.4j,t.8,1.4j,5.8,9.4j,1x.3e,9.4j,9.3e,0.4j,6.3e,0.4j,k.3e,4.4j,i.3e,bz.4j,1l.1z,5h.4j" ++
  ",2i.2g,2s.4j,22.2l,3.4j,1k.2l,6.4j,g.2l,1r.4j,0.48,0.2x,1.1d,0.1v,a.4j,1.1d,d.4j,4qf.48,7.4j,lb." ++
  "48,d1.1v,14.4j,0.1v,8.48,6w6.4j,3.1r,0.4j,6.1r,0.4j,1.1r,0.4j,0.1r,7y.1j,2.1r,e.4j,0.1j,s.4j,2.1" ++
  "j,1.4j,0.1r,d.4j,3.1r,7.4j,az.2x,1s3.4j,2y.y,4.4j,c.y,2.4j,8.y,6.4j,9.y,1.4j,7.y,317.4j,6x.o,5.4" ++
  "j,c3.o,23.4j,19.1l,1.4j,m.1l,8.4j,37.o,1n.4j,6t.o,9.4j,12.o,1.4j,1p.o,2.1l,g.o,7.1l,1.o,6.1l,t.o" ++
  ",3.1l,1o.o,k.4j,1x.18,3d.4j,j.o,b.4j,j.o,b.4j,2e.o,8.4j,h.1d,6.o,3q.4j,2c.o,0.4j,1y.o,0.4j,1.o,1" ++
  ".4j,0.o,1.4j,1.o,1.4j,3.o,0.4j,b.o,0.4j,0.o,0.4j,6.o,0.4j,1s.o,0.4j,3.o,1.4j,7.o,0.4j,6.o,0.4j,r" ++
  ".o,0.4j,3.o,0.4j,4.o,0.4j,0.o,2.4j,6.o,0.4j,9f.o,1.4j,83.o,1.4j,1d.o,i3.3r,e.4j,4.3r,0.4j,e.3r,u" ++
  "n.4j,u.21,5.4j,5.21,5w.4j,6.15,0.4j,g.15,1.4j,6.15,0.4j,1.15,0.4j,4.15,4.4j,1p.t,w.4j,0.t,33.4j," ++
  "18.2y,2.4j,d.2y,1.4j,9.2y,3.4j,1.2y,8v.4j,u.4g,g.4j,1l.4m,4.4j,0.4m,cv.4j,15.2s,5x.4j,16.31,3.4j" ++
  ",0.31,db.4j,6.12,0.4j,3.12,0.4j,1.12,0.4j,e.12,0.4j,5g.2i,1.4j,f.2i,14.4j,23.0,3.4j,9.0,3.4j,1.0" ++
  ",ls.4j,1v.o,23.4j,1o.o,5d.4j,3.3,0.4j,q.3,0.4j,1.3,0.4j,0.3,1.4j,0.3,0.4j,9.3,0.4j,3.3,0.4j,0.3," ++
  "0.4j,0.3,5.4j,0.3,3.4j,0.3,0.4j,0.3,0.4j,0.3,0.4j,2.3,0.4j,1.3,0.4j,0.3,1.4j,0.3,0.4j,0.3,0.4j,0" ++
  ".3,0.4j,0.3,0.4j,0.3,0.4j,1.3,0.4j,0.3,1.4j,3.3,0.4j,6.3,0.4j,3.3,0.4j,3.3,0.4j,0.3,0.4j,9.3,0.4" ++
  "j,g.3,4.4j,2.3,0.4j,4.3,0.4j,g.3,1f.4j,1.3,7h.4j,17.o,3.4j,2r.o,b.4j,e.o,1.4j,e.o,0.4j,e.o,0.4j," ++
  "10.o,9.4j,4t.o,1j.4j,p.o,0.1j,1.o,c.4j,17.o,3.4j,8.o,6.4j,1.1d,d.4j,5.o,49.4j,rb.o,3.4j,g.o,2.4j" ++
  ",c.o,2.4j,3a.o,3.4j,2m.o,5.4j,b.o,3.4j,0.o,e.4j,b.o,3.4j,1j.o,7.4j,9.o,5.4j,13.o,7.4j,t.o,1.4j,b" ++
  ".o,3.4j,1.o,1p.4j,9f.o,b.4j,d.o,1.4j,c.o,2.4j,9.o,4.4j,1j.o,6.4j,e.o,1.4j,a.o,5.4j,8.o,6.4j,42.o" ++
  ",0.4j,2t.o,sl.4j,wyn.1d,v.4j,37d.1d,5.4j,65.1d,1.4j,4g1.1d,d.4j,5rk.1d,e.4j,h9.1d,1wh.4j,f1.1d,1" ++
  "5t.4j,3t6.1d,4.4j,38f.1d,f974.4j,0.o,t.4j,2n.o,3j.4j,6n.1l,47bj.4j"

/-- The runs of scripts: first and last code point, and the script's number. -/
def scriptRuns : Array (Nat × Nat × Nat) := unpackRuns packedScripts

/-- The runs of script extensions: first and last code point, and the set's number. -/
def scriptSetRuns : Array (Nat × Nat × Nat) := unpackRuns packedScriptSets

/-- The code points of a script, by its number, as merged ranges. -/
def scriptRanges (k : Nat) : Array (Nat × Nat) := runsWith scriptRuns (· == k)

/-- The code points whose script extensions hold a script, by its number, as merged ranges. -/
def scriptExtensionRanges (k : Nat) : Array (Nat × Nat) :=
  runsWith scriptSetRuns fun v => (scriptSets.getD v []).contains k

end Chatbot.Unicode
