import TagSpacing.Unicode.RunTable

/-! The script that every character is written in. -/
namespace TagSpacing.Unicode

/-- A script, by its four-letter code. -/
abbrev Script := String

/-- Every script with its names, in lower case and without separators. -/
def scriptNames : List (Script × List String) := [
  ("Adlm", ["adlm", "adlam"]),
  ("Aghb", ["aghb", "caucasianalbanian"]),
  ("Ahom", ["ahom"]),
  ("Arab", ["arab", "arabic"]),
  ("Armi", ["armi", "imperialaramaic"]),
  ("Armn", ["armn", "armenian"]),
  ("Avst", ["avst", "avestan"]),
  ("Bali", ["bali", "balinese"]),
  ("Bamu", ["bamu", "bamum"]),
  ("Bass", ["bass", "bassavah"]),
  ("Batk", ["batk", "batak"]),
  ("Beng", ["beng", "bengali"]),
  ("Bhks", ["bhks", "bhaiksuki"]),
  ("Bopo", ["bopo", "bopomofo"]),
  ("Brah", ["brah", "brahmi"]),
  ("Brai", ["brai", "braille"]),
  ("Bugi", ["bugi", "buginese"]),
  ("Buhd", ["buhd", "buhid"]),
  ("Cakm", ["cakm", "chakma"]),
  ("Cans", ["cans", "canadianaboriginal"]),
  ("Cari", ["cari", "carian"]),
  ("Cham", ["cham"]),
  ("Cher", ["cher", "cherokee"]),
  ("Chrs", ["chrs", "chorasmian"]),
  ("Copt", ["copt", "coptic", "qaac"]),
  ("Cpmn", ["cpmn", "cyprominoan"]),
  ("Cprt", ["cprt", "cypriot"]),
  ("Cyrl", ["cyrl", "cyrillic"]),
  ("Deva", ["deva", "devanagari"]),
  ("Diak", ["diak", "divesakuru"]),
  ("Dogr", ["dogr", "dogra"]),
  ("Dsrt", ["dsrt", "deseret"]),
  ("Dupl", ["dupl", "duployan"]),
  ("Egyp", ["egyp", "egyptianhieroglyphs"]),
  ("Elba", ["elba", "elbasan"]),
  ("Elym", ["elym", "elymaic"]),
  ("Ethi", ["ethi", "ethiopic"]),
  ("Geor", ["geor", "georgian"]),
  ("Glag", ["glag", "glagolitic"]),
  ("Gong", ["gong", "gunjalagondi"]),
  ("Gonm", ["gonm", "masaramgondi"]),
  ("Goth", ["goth", "gothic"]),
  ("Gran", ["gran", "grantha"]),
  ("Grek", ["grek", "greek"]),
  ("Gujr", ["gujr", "gujarati"]),
  ("Guru", ["guru", "gurmukhi"]),
  ("Hang", ["hang", "hangul"]),
  ("Hani", ["hani", "han"]),
  ("Hano", ["hano", "hanunoo"]),
  ("Hatr", ["hatr", "hatran"]),
  ("Hebr", ["hebr", "hebrew"]),
  ("Hira", ["hira", "hiragana"]),
  ("Hluw", ["hluw", "anatolianhieroglyphs"]),
  ("Hmng", ["hmng", "pahawhhmong"]),
  ("Hmnp", ["hmnp", "nyiakengpuachuehmong"]),
  ("Hung", ["hung", "oldhungarian"]),
  ("Ital", ["ital", "olditalic"]),
  ("Java", ["java", "javanese"]),
  ("Kali", ["kali", "kayahli"]),
  ("Kana", ["kana", "katakana"]),
  ("Kawi", ["kawi"]),
  ("Khar", ["khar", "kharoshthi"]),
  ("Khmr", ["khmr", "khmer"]),
  ("Khoj", ["khoj", "khojki"]),
  ("Kits", ["kits", "khitansmallscript"]),
  ("Knda", ["knda", "kannada"]),
  ("Kthi", ["kthi", "kaithi"]),
  ("Lana", ["lana", "taitham"]),
  ("Laoo", ["laoo", "lao"]),
  ("Latn", ["latn", "latin"]),
  ("Lepc", ["lepc", "lepcha"]),
  ("Limb", ["limb", "limbu"]),
  ("Lina", ["lina", "lineara"]),
  ("Linb", ["linb", "linearb"]),
  ("Lisu", ["lisu"]),
  ("Lyci", ["lyci", "lycian"]),
  ("Lydi", ["lydi", "lydian"]),
  ("Mahj", ["mahj", "mahajani"]),
  ("Maka", ["maka", "makasar"]),
  ("Mand", ["mand", "mandaic"]),
  ("Mani", ["mani", "manichaean"]),
  ("Marc", ["marc", "marchen"]),
  ("Medf", ["medf", "medefaidrin"]),
  ("Mend", ["mend", "mendekikakui"]),
  ("Merc", ["merc", "meroiticcursive"]),
  ("Mero", ["mero", "meroitichieroglyphs"]),
  ("Mlym", ["mlym", "malayalam"]),
  ("Modi", ["modi"]),
  ("Mong", ["mong", "mongolian"]),
  ("Mroo", ["mroo", "mro"]),
  ("Mtei", ["mtei", "meeteimayek"]),
  ("Mult", ["mult", "multani"]),
  ("Mymr", ["mymr", "myanmar"]),
  ("Nagm", ["nagm", "nagmundari"]),
  ("Nand", ["nand", "nandinagari"]),
  ("Narb", ["narb", "oldnortharabian"]),
  ("Nbat", ["nbat", "nabataean"]),
  ("Newa", ["newa"]),
  ("Nkoo", ["nkoo", "nko"]),
  ("Nshu", ["nshu", "nushu"]),
  ("Ogam", ["ogam", "ogham"]),
  ("Olck", ["olck", "olchiki"]),
  ("Orkh", ["orkh", "oldturkic"]),
  ("Orya", ["orya", "oriya"]),
  ("Osge", ["osge", "osage"]),
  ("Osma", ["osma", "osmanya"]),
  ("Ougr", ["ougr", "olduyghur"]),
  ("Palm", ["palm", "palmyrene"]),
  ("Pauc", ["pauc", "paucinhau"]),
  ("Perm", ["perm", "oldpermic"]),
  ("Phag", ["phag", "phagspa"]),
  ("Phli", ["phli", "inscriptionalpahlavi"]),
  ("Phlp", ["phlp", "psalterpahlavi"]),
  ("Phnx", ["phnx", "phoenician"]),
  ("Plrd", ["plrd", "miao"]),
  ("Prti", ["prti", "inscriptionalparthian"]),
  ("Rjng", ["rjng", "rejang"]),
  ("Rohg", ["rohg", "hanifirohingya"]),
  ("Runr", ["runr", "runic"]),
  ("Samr", ["samr", "samaritan"]),
  ("Sarb", ["sarb", "oldsoutharabian"]),
  ("Saur", ["saur", "saurashtra"]),
  ("Sgnw", ["sgnw", "signwriting"]),
  ("Shaw", ["shaw", "shavian"]),
  ("Shrd", ["shrd", "sharada"]),
  ("Sidd", ["sidd", "siddham"]),
  ("Sind", ["sind", "khudawadi"]),
  ("Sinh", ["sinh", "sinhala"]),
  ("Sogd", ["sogd", "sogdian"]),
  ("Sogo", ["sogo", "oldsogdian"]),
  ("Sora", ["sora", "sorasompeng"]),
  ("Soyo", ["soyo", "soyombo"]),
  ("Sund", ["sund", "sundanese"]),
  ("Sylo", ["sylo", "sylotinagri"]),
  ("Syrc", ["syrc", "syriac"]),
  ("Tagb", ["tagb", "tagbanwa"]),
  ("Takr", ["takr", "takri"]),
  ("Tale", ["tale", "taile"]),
  ("Talu", ["talu", "newtailue"]),
  ("Taml", ["taml", "tamil"]),
  ("Tang", ["tang", "tangut"]),
  ("Tavt", ["tavt", "taiviet"]),
  ("Telu", ["telu", "telugu"]),
  ("Tfng", ["tfng", "tifinagh"]),
  ("Tglg", ["tglg", "tagalog"]),
  ("Thaa", ["thaa", "thaana"]),
  ("Thai", ["thai"]),
  ("Tibt", ["tibt", "tibetan"]),
  ("Tirh", ["tirh", "tirhuta"]),
  ("Tnsa", ["tnsa", "tangsa"]),
  ("Toto", ["toto"]),
  ("Ugar", ["ugar", "ugaritic"]),
  ("Vaii", ["vaii", "vai"]),
  ("Vith", ["vith", "vithkuqi"]),
  ("Wara", ["wara", "warangciti"]),
  ("Wcho", ["wcho", "wancho"]),
  ("Xpeo", ["xpeo", "oldpersian"]),
  ("Xsux", ["xsux", "cuneiform"]),
  ("Yezi", ["yezi", "yezidi"]),
  ("Yiii", ["yiii", "yi"]),
  ("Zanb", ["zanb", "zanabazarsquare"]),
  ("Zinh", ["zinh", "inherited", "qaai"]),
  ("Zyyy", ["zyyy", "common"]),
  ("Zzzz", ["zzzz", "unknown"])]

/-- Consecutive characters from U+0000 on: each word gives a script and, in hexadecimal, how many
characters in a row have it, one if no number stands there. -/
def scriptRuns : String := "
  Zyyy41 Latn1a Zyyy6 Latn1a Zyyy2f Latn Zyyyf Latn Zyyy5 Latn17 Zyyy Latn1f Zyyy Latn1c1 Zyyy27
  Latn5 Zyyy5 Bopo2 Zyyy14 Zinh70 Grek4 Zyyy Grek3 Zzzz2 Grek4 Zyyy Grek Zzzz4 Grek Zyyy Grek
  Zyyy Grek3 Zzzz Grek Zzzz Grek14 Zzzz Grek3f Copte Grek10 Cyrl85 Zinh2 Cyrla9 Zzzz Armn26
  Zzzz2 Armn32 Zzzz2 Armn3 Zzzz Hebr37 Zzzz8 Hebr1b Zzzz4 Hebr6 Zzzzb Arab5 Zyyy Arab6 Zyyy
  Arabe Zyyy Arab3 Zyyy Arab20 Zyyy Araba Zinhb Arab1a Zinh Arab6c Zyyy Arab22 Syrce Zzzz Syrc3c
  Zzzz2 Syrc3 Arab30 Thaa32 Zzzze Nkoo3b Zzzz2 Nkoo3 Samr2e Zzzz2 Samrf Zzzz Mand1c Zzzz2 Mand
  Zzzz Syrcb Zzzz5 Arab1f Zzzz Arab2 Zzzz6 Arab4a Zyyy Arab1d Deva51 Zinh4 Devaf Zyyy2 Deva1a
  Beng4 Zzzz Beng8 Zzzz2 Beng2 Zzzz2 Beng16 Zzzz Beng7 Zzzz Beng Zzzz3 Beng4 Zzzz2 Beng9 Zzzz2
  Beng2 Zzzz2 Beng4 Zzzz8 Beng Zzzz4 Beng2 Zzzz Beng5 Zzzz2 Beng19 Zzzz2 Guru3 Zzzz Guru6 Zzzz4
  Guru2 Zzzz2 Guru16 Zzzz Guru7 Zzzz Guru2 Zzzz Guru2 Zzzz Guru2 Zzzz2 Guru Zzzz Guru5 Zzzz4
  Guru2 Zzzz2 Guru3 Zzzz3 Guru Zzzz7 Guru4 Zzzz Guru Zzzz7 Guru11 Zzzza Gujr3 Zzzz Gujr9 Zzzz
  Gujr3 Zzzz Gujr16 Zzzz Gujr7 Zzzz Gujr2 Zzzz Gujr5 Zzzz2 Gujra Zzzz Gujr3 Zzzz Gujr3 Zzzz2
  Gujr Zzzzf Gujr4 Zzzz2 Gujrc Zzzz7 Gujr7 Zzzz Orya3 Zzzz Orya8 Zzzz2 Orya2 Zzzz2 Orya16 Zzzz
  Orya7 Zzzz Orya2 Zzzz Orya5 Zzzz2 Orya9 Zzzz2 Orya2 Zzzz2 Orya3 Zzzz7 Orya3 Zzzz4 Orya2 Zzzz
  Orya5 Zzzz2 Orya12 Zzzza Taml2 Zzzz Taml6 Zzzz3 Taml3 Zzzz Taml4 Zzzz3 Taml2 Zzzz Taml Zzzz
  Taml2 Zzzz3 Taml2 Zzzz3 Taml3 Zzzz3 Tamlc Zzzz4 Taml5 Zzzz3 Taml3 Zzzz Taml4 Zzzz2 Taml Zzzz6
  Taml Zzzze Taml15 Zzzz5 Telud Zzzz Telu3 Zzzz Telu17 Zzzz Telu10 Zzzz2 Telu9 Zzzz Telu3 Zzzz
  Telu4 Zzzz7 Telu2 Zzzz Telu3 Zzzz2 Telu Zzzz2 Telu4 Zzzz2 Telua Zzzz7 Telu9 Kndad Zzzz Knda3
  Zzzz Knda17 Zzzz Kndaa Zzzz Knda5 Zzzz2 Knda9 Zzzz Knda3 Zzzz Knda4 Zzzz7 Knda2 Zzzz6 Knda2
  Zzzz Knda4 Zzzz2 Kndaa Zzzz Knda3 Zzzzc Mlymd Zzzz Mlym3 Zzzz Mlym33 Zzzz Mlym3 Zzzz Mlym6
  Zzzz4 Mlym10 Zzzz2 Mlym1a Zzzz Sinh3 Zzzz Sinh12 Zzzz3 Sinh18 Zzzz Sinh9 Zzzz Sinh Zzzz2 Sinh7
  Zzzz3 Sinh Zzzz4 Sinh6 Zzzz Sinh Zzzz Sinh8 Zzzz6 Sinha Zzzz2 Sinh3 Zzzzc Thai3a Zzzz4 Zyyy
  Thai1c Zzzz25 Laoo2 Zzzz Laoo Zzzz Laoo5 Zzzz Laoo18 Zzzz Laoo Zzzz Laoo17 Zzzz2 Laoo5 Zzzz
  Laoo Zzzz Laoo7 Zzzz Laooa Zzzz2 Laoo4 Zzzz20 Tibt48 Zzzz Tibt24 Zzzz4 Tibt27 Zzzz Tibt24 Zzzz
  Tibtf Zzzz Tibt7 Zyyy4 Tibt2 Zzzz25 Mymra0 Geor26 Zzzz Geor Zzzz5 Geor Zzzz2 Geor2b Zyyy Geor4
  Hang100 Ethi49 Zzzz Ethi4 Zzzz2 Ethi7 Zzzz Ethi Zzzz Ethi4 Zzzz2 Ethi29 Zzzz Ethi4 Zzzz2
  Ethi21 Zzzz Ethi4 Zzzz2 Ethi7 Zzzz Ethi Zzzz Ethi4 Zzzz2 Ethif Zzzz Ethi39 Zzzz Ethi4 Zzzz2
  Ethi43 Zzzz2 Ethi20 Zzzz3 Ethi1a Zzzz6 Cher56 Zzzz2 Cher6 Zzzz2 Cans280 Ogam1d Zzzz3 Runr4b
  Zyyy3 Runrb Zzzz7 Tglg16 Zzzz9 Tglg Hano15 Zyyy2 Zzzz9 Buhd14 Zzzzc Tagbd Zzzz Tagb3 Zzzz
  Tagb2 Zzzzc Khmr5e Zzzz2 Khmra Zzzz6 Khmra Zzzz6 Mong2 Zyyy2 Mong Zyyy Mong14 Zzzz6 Mong59
  Zzzz7 Mong2b Zzzz5 Cans46 Zzzza Limb1f Zzzz Limbc Zzzz4 Limbc Zzzz4 Limb Zzzz3 Limbc Tale1e
  Zzzz2 Tale5 Zzzzb Talu2c Zzzz4 Talu1a Zzzz6 Talub Zzzz3 Talu2 Khmr20 Bugi1c Zzzz2 Bugi2 Lana3f
  Zzzz Lana1d Zzzz2 Lanab Zzzz6 Lanaa Zzzz6 Lanae Zzzz2 Zinh1f Zzzz31 Bali4d Zzzz3 Bali2f Zzzz
  Sund40 Batk34 Zzzz8 Batk4 Lepc38 Zzzz3 Lepcf Zzzz3 Lepc3 Olck30 Cyrl9 Zzzz7 Geor2b Zzzz2 Geor3
  Sund8 Zzzz8 Zinh3 Zyyy Zinhd Zyyy Zinh7 Zyyy4 Zinh Zyyy6 Zinh Zyyy3 Zinh2 Zyyy Zzzz5 Latn26
  Grek5 Cyrl Latn31 Grek5 Latn4 Grek5 Latnd Cyrl Latn46 Grek Zinh40 Latn100 Grek16 Zzzz2 Grek6
  Zzzz2 Grek26 Zzzz2 Grek6 Zzzz2 Grek8 Zzzz Grek Zzzz Grek Zzzz Grek Zzzz Grek1f Zzzz2 Grek35
  Zzzz Grekf Zzzz Greke Zzzz2 Grek6 Zzzz Grek13 Zzzz2 Grek3 Zzzz Grek9 Zzzz Zyyyc Zinh2 Zyyy57
  Zzzz Zyyyb Latn Zzzz2 Zyyyb Latn Zyyyf Zzzz Latnd Zzzz3 Zyyy21 Zzzzf Zinh21 Zzzzf Zyyy26 Grek
  Zyyy3 Latn2 Zyyy6 Latn Zyyy1b Latn Zyyy11 Latn29 Zyyy3 Zzzz4 Zyyy297 Zzzz19 Zyyyb Zzzz15
  Zyyy3a0 Brai100 Zyyy274 Zzzz2 Zyyy20 Zzzz Zyyy69 Glag60 Latn20 Copt74 Zzzz5 Copt7 Geor26 Zzzz
  Geor Zzzz5 Geor Zzzz2 Tfng38 Zzzz7 Tfng2 Zzzze Tfng Ethi17 Zzzz9 Ethi7 Zzzz Ethi7 Zzzz Ethi7
  Zzzz Ethi7 Zzzz Ethi7 Zzzz Ethi7 Zzzz Ethi7 Zzzz Ethi7 Zzzz Cyrl20 Zyyy5e Zzzz22 Hani1a Zzzz
  Hani59 Zzzzc Hanid6 Zzzz1a Zyyyc Zzzz4 Zyyy5 Hani Zyyy Hani Zyyy19 Hani9 Zinh4 Hang2 Zyyy8
  Hani4 Zyyy4 Zzzz Hira56 Zzzz2 Zinh2 Zyyy2 Hira3 Zyyy Kana5a Zyyy2 Kana3 Zzzz5 Bopo2b Zzzz
  Hang5e Zzzz Zyyy10 Bopo20 Zyyy24 Zzzzc Kana10 Hang1f Zzzz Zyyy40 Hang1f Zyyy51 Kana2f Zyyy
  Kana58 Zyyya8 Hani19c0 Zyyy40 Hani5200 Yiii48d Zzzz3 Yiii37 Zzzz9 Lisu30 Vaii12c Zzzz14 Cyrl60
  Bamu58 Zzzz8 Zyyy22 Latn66 Zyyy3 Latn40 Zzzz5 Latn2 Zzzz Latn Zzzz Latn5 Zzzz18 Latne Sylo2d
  Zzzz3 Zyyya Zzzz6 Phag38 Zzzz8 Saur46 Zzzz8 Saurc Zzzz6 Deva20 Kali2e Zyyy Kali Rjng24 Zzzzb
  Rjng Hang1d Zzzz3 Java4e Zzzz Zyyy Javaa Zzzz4 Java2 Mymr1f Zzzz Cham37 Zzzz9 Chame Zzzz2
  Chama Zzzz2 Cham4 Mymr20 Tavt43 Zzzz18 Tavt5 Mtei17 Zzzza Ethi6 Zzzz2 Ethi6 Zzzz2 Ethi6 Zzzz9
  Ethi7 Zzzz Ethi7 Zzzz Latn2b Zyyy Latn9 Grek Latn4 Zyyy2 Zzzz4 Cher50 Mtei2e Zzzz2 Mteia Zzzz6
  Hang2ba4 Zzzzc Hang17 Zzzz4 Hang31 Zzzz2104 Hani16e Zzzz2 Hani6a Zzzz26 Latn7 Zzzzc Armn5
  Zzzz5 Hebr1a Zzzz Hebr5 Zzzz Hebr Zzzz Hebr2 Zzzz Hebr2 Zzzz Hebra Arab73 Zzzz10 Arab16b Zyyy2
  Arab50 Zzzz2 Arab36 Zzzz7 Arab Zzzz20 Arab10 Zinh10 Zyyya Zzzz6 Zinhe Cyrl2 Zyyy23 Zzzz Zyyy13
  Zzzz Zyyy4 Zzzz4 Arab5 Zzzz Arab87 Zzzz2 Zyyy Zzzz Zyyy20 Latn1a Zyyy6 Latn1a Zyyyb Kanaa Zyyy
  Kana2d Zyyy2 Hang1f Zzzz3 Hang6 Zzzz2 Hang6 Zzzz2 Hang6 Zzzz2 Hang3 Zzzz3 Zyyy7 Zzzz Zyyy7
  Zzzza Zyyy5 Zzzz2 Linbc Zzzz Linb1a Zzzz Linb13 Zzzz Linb2 Zzzz Linbf Zzzz2 Linbe Zzzz22
  Linb7b Zzzz5 Zyyy3 Zzzz4 Zyyy2d Zzzz3 Zyyy9 Grek4f Zzzz Zyyyd Zzzz3 Grek Zzzz2f Zyyy2d Zinh
  Zzzz82 Lyci1d Zzzz3 Cari31 Zzzzf Zinh Zyyy1b Zzzz4 Ital24 Zzzz9 Ital3 Goth1b Zzzz5 Perm2b
  Zzzz5 Ugar1e Zzzz Ugar Xpeo24 Zzzz4 Xpeoe Zzzz2a Dsrt50 Shaw30 Osma1e Zzzz2 Osmaa Zzzz6 Osge24
  Zzzz4 Osge24 Zzzz4 Elba28 Zzzz8 Aghb34 Zzzzb Aghb Vithb Zzzz Vithf Zzzz Vith7 Zzzz Vith2 Zzzz
  Vithb Zzzz Vithf Zzzz Vith7 Zzzz Vith2 Zzzz43 Lina137 Zzzz9 Lina16 Zzzza Lina8 Zzzz18 Latn6
  Zzzz Latn2a Zzzz Latn9 Zzzz45 Cprt6 Zzzz2 Cprt Zzzz Cprt2c Zzzz Cprt2 Zzzz3 Cprt Zzzz2 Cprt
  Armi16 Zzzz Armi9 Palm20 Nbat1f Zzzz8 Nbat9 Zzzz30 Hatr13 Zzzz Hatr2 Zzzz5 Hatr5 Phnx1c Zzzz3
  Phnx Lydi1a Zzzz5 Lydi Zzzz40 Mero20 Merc18 Zzzz4 Merc14 Zzzz2 Merc2e Khar4 Zzzz Khar2 Zzzz5
  Khar8 Zzzz Khar3 Zzzz Khar1d Zzzz2 Khar3 Zzzz4 Khara Zzzz7 Khar9 Zzzz7 Sarb20 Narb20 Zzzz20
  Mani27 Zzzz4 Manic Zzzz9 Avst36 Zzzz3 Avst7 Prti16 Zzzz2 Prti8 Phli13 Zzzz5 Phli8 Phlp12 Zzzz7
  Phlp4 Zzzzc Phlp7 Zzzz50 Orkh49 Zzzz37 Hung33 Zzzzd Hung33 Zzzz7 Hung6 Rohg28 Zzzz8 Rohga
  Zzzz126 Arab1f Zzzz Yezi2a Zzzz Yezi3 Zzzz2 Yezi2 Zzzz4b Arab3 Sogo28 Zzzz8 Sogd2a Zzzz16
  Ougr1a Zzzz26 Chrs1c Zzzz14 Elym17 Zzzz9 Brah4e Zzzz4 Brah24 Zzzz9 Brah Kthi43 Zzzza Kthi
  Zzzz2 Sora19 Zzzz7 Soraa Zzzz6 Cakm35 Zzzz Cakm12 Zzzz8 Mahj27 Zzzz9 Shrd60 Zzzz Sinh14 Zzzzb
  Khoj12 Zzzz Khoj2f Zzzz3e Mult7 Zzzz Mult Zzzz Mult4 Zzzz Multf Zzzz Multb Zzzz6 Sind3b Zzzz5
  Sinda Zzzz6 Gran4 Zzzz Gran8 Zzzz2 Gran2 Zzzz2 Gran16 Zzzz Gran7 Zzzz Gran2 Zzzz Gran5 Zzzz
  Zinh Gran9 Zzzz2 Gran2 Zzzz2 Gran3 Zzzz2 Gran Zzzz6 Gran Zzzz5 Gran7 Zzzz2 Gran7 Zzzz3 Gran5
  Zzzz8b Newa5c Zzzz Newa5 Zzzz1e Tirh48 Zzzz8 Tirha Zzzza6 Sidd36 Zzzz2 Sidd26 Zzzz22 Modi45
  Zzzzb Modia Zzzz6 Mongd Zzzz13 Takr3a Zzzz6 Takra Zzzz36 Ahom1b Zzzz2 Ahomf Zzzz4 Ahom17
  Zzzzb9 Dogr3c Zzzz64 Wara53 Zzzzc Wara Diak7 Zzzz2 Diak Zzzz2 Diak8 Zzzz Diak2 Zzzz Diak1e
  Zzzz Diak2 Zzzz2 Diakc Zzzz9 Diaka Zzzz46 Nand8 Zzzz2 Nand2e Zzzz2 Nandb Zzzz1b Zanb48 Zzzz8
  Soyo53 Zzzzd Cans10 Pauc39 Zzzz7 Devaa Zzzzf6 Bhks9 Zzzz Bhks2d Zzzz Bhkse Zzzza Bhks1d Zzzz3
  Marc20 Zzzz2 Marc16 Zzzz Marce Zzzz49 Gonm7 Zzzz Gonm2 Zzzz Gonm2c Zzzz3 Gonm Zzzz Gonm2 Zzzz
  Gonm9 Zzzz8 Gonma Zzzz6 Gong6 Zzzz Gong2 Zzzz Gong25 Zzzz Gong2 Zzzz Gong6 Zzzz7 Gonga Zzzz136
  Maka19 Zzzz7 Kawi11 Zzzz Kawi29 Zzzz3 Kawi1c Zzzz56 Lisu Zzzzf Taml32 Zzzzd Taml Xsux39a
  Zzzz66 Xsux6f Zzzz Xsux5 Zzzzb Xsuxc4 Zzzza4c Cpmn63 Zzzzd Egyp456 Zzzzfaa Hluw247 Zzzz21b9
  Bamu239 Zzzz7 Mroo1f Zzzz Mrooa Zzzz4 Mroo2 Tnsa4f Zzzz Tnsaa Zzzz6 Bass1e Zzzz2 Bass6 Zzzza
  Hmng46 Zzzza Hmnga Zzzz Hmng7 Zzzz Hmng15 Zzzz5 Hmng13 Zzzz2b0 Medf5b Zzzz65 Plrd4b Zzzz4
  Plrd39 Zzzz7 Plrd11 Zzzz40 Tang Nshu Hani2 Kits Zzzzb Hani2 Zzzze Tang17f8 Zzzz8 Tang300
  Kits1d6 Zzzz2a Tang9 Zzzz22e7 Kana4 Zzzz Kana7 Zzzz Kana2 Zzzz Kana Hira11f Kana3 Zzzzf Hira
  Zzzz1d Hira3 Zzzz2 Kana Zzzze Kana4 Zzzz8 Nshu18c Zzzz904 Dupl6b Zzzz5 Dupld Zzzz3 Dupl9 Zzzz7
  Dupla Zzzz2 Dupl4 Zyyy4 Zzzz125c Zinh2e Zzzz2 Zinh17 Zzzz9 Zyyy74 Zzzz3c Zyyyf6 Zzzza Zyyy27
  Zzzz2 Zyyy3e Zinh3 Zyyy11 Zinh8 Zyyy2 Zinh7 Zyyy1e Zinh4 Zyyy3d Zzzz15 Grek46 Zzzz7a Zyyy14
  Zzzzc Zyyy14 Zzzzc Zyyy57 Zzzz9 Zyyy19 Zzzz87 Zyyy55 Zzzz Zyyy47 Zzzz Zyyy2 Zzzz2 Zyyy Zzzz2
  Zyyy2 Zzzz2 Zyyy4 Zzzz Zyyyc Zzzz Zyyy Zzzz Zyyy7 Zzzz Zyyy41 Zzzz Zyyy4 Zzzz2 Zyyy8 Zzzz
  Zyyy7 Zzzz Zyyy1c Zzzz Zyyy4 Zzzz Zyyy5 Zzzz Zyyy Zzzz3 Zyyy7 Zzzz Zyyy154 Zzzz2 Zyyy124 Zzzz2
  Zyyy32 Sgnw28c Zzzzf Sgnw5 Zzzz Sgnwf Zzzz450 Latn1f Zzzz6 Latn6 Zzzzd5 Glag7 Zzzz Glag11
  Zzzz2 Glag7 Zzzz Glag2 Zzzz Glag5 Zzzz5 Cyrl3e Zzzz21 Cyrl Zzzz70 Hmnp2d Zzzz3 Hmnpe Zzzz2
  Hmnpa Zzzz4 Hmnp2 Zzzz140 Toto1f Zzzz11 Wcho3a Zzzz5 Wcho Zzzz1d0 Nagm2a Zzzz2e6 Ethi7 Zzzz
  Ethi4 Zzzz Ethi2 Zzzz Ethif Zzzz Mendc5 Zzzz2 Mend10 Zzzz29 Adlm4c Zzzz4 Adlma Zzzz4 Adlm2
  Zzzz311 Zyyy44 Zzzz4c Zyyy3d Zzzzc2 Arab4 Zzzz Arab1b Zzzz Arab2 Zzzz Arab Zzzz2 Arab Zzzz
  Araba Zzzz Arab4 Zzzz Arab Zzzz Arab Zzzz6 Arab Zzzz4 Arab Zzzz Arab Zzzz Arab Zzzz Arab3 Zzzz
  Arab2 Zzzz Arab Zzzz2 Arab Zzzz Arab Zzzz Arab Zzzz Arab Zzzz Arab Zzzz Arab2 Zzzz Arab Zzzz2
  Arab4 Zzzz Arab7 Zzzz Arab4 Zzzz Arab4 Zzzz Arab Zzzz Araba Zzzz Arab11 Zzzz5 Arab3 Zzzz Arab5
  Zzzz Arab11 Zzzz34 Arab2 Zzzz10e Zyyy2c Zzzz4 Zyyy64 Zzzzc Zyyyf Zzzz2 Zyyyf Zzzz Zyyyf Zzzz
  Zyyy25 Zzzza Zyyyae Zzzz38 Zyyy1a Hira Zyyy2 Zzzzd Zyyy2c Zzzz4 Zyyy9 Zzzz7 Zyyy2 Zzzze Zyyy6
  Zzzz9a Zyyy3d8 Zzzz4 Zyyy11 Zzzz3 Zyyyd Zzzz3 Zyyy77 Zzzz4 Zyyy5f Zzzz6 Zyyyc Zzzz4 Zyyy Zzzzf
  Zyyyc Zzzz4 Zyyy38 Zzzz8 Zyyya Zzzz6 Zyyy28 Zzzz8 Zyyy1e Zzzz2 Zyyy2 Zzzz4e Zyyy154 Zzzzc
  Zyyye Zzzz2 Zyyyd Zzzz3 Zyyy9 Zzzz7 Zyyy2e Zzzz Zyyy7 Zzzz8 Zyyye Zzzz4 Zyyy9 Zzzz7 Zyyy9
  Zzzz7 Zyyy93 Zzzz Zyyy37 Zzzz25 Zyyya Zzzz406 Hania6e0 Zzzz20 Hani103a Zzzz6 Hanide Zzzz2
  Hani1682 Zzzze Hani1d31 Zzzzc1f Hani21e Zzzz5e2 Hani134b Zzzz5 Hani1060 Zzzzadc51 Zyyy Zzzz1e
  Zyyy60 Zzzz80 Zinhf0 Zzzz2fe10 Zzzz0"

def scriptTable : RunTable Script := .ofRuns String.ofList 4 scriptRuns

/-- The script of a character. -/
def script (c : Char) : Script := scriptTable.get c "Zzzz"

/-- The script with a name. -/
def script? (name : String) : Option Script := (scriptNames.find? (·.2.contains name)).map (·.1)

end TagSpacing.Unicode
