import ClassSwap.Unicode.Runs

namespace ClassSwap.Unicode

/-- The names of each script, in lower case and without separators. -/
def scriptNames : List (List String) :=
  [["adlam", "adlm"],
   ["ahom"],
   ["anatolianhieroglyphs", "hluw"],
   ["arabic", "arab"],
   ["armenian", "armn"],
   ["avestan", "avst"],
   ["balinese", "bali"],
   ["bamum", "bamu"],
   ["bassavah", "bass"],
   ["batak", "batk"],
   ["bengali", "beng"],
   ["bhaiksuki", "bhks"],
   ["bopomofo", "bopo"],
   ["brahmi", "brah"],
   ["braille", "brai"],
   ["buginese", "bugi"],
   ["buhid", "buhd"],
   ["canadianaboriginal", "cans"],
   ["carian", "cari"],
   ["caucasianalbanian", "aghb"],
   ["chakma", "cakm"],
   ["cham"],
   ["cherokee", "cher"],
   ["chorasmian", "chrs"],
   ["common", "zyyy"],
   ["coptic", "copt", "qaac"],
   ["cuneiform", "xsux"],
   ["cypriot", "cprt"],
   ["cyprominoan", "cpmn"],
   ["cyrillic", "cyrl"],
   ["deseret", "dsrt"],
   ["devanagari", "deva"],
   ["divesakuru", "diak"],
   ["dogra", "dogr"],
   ["duployan", "dupl"],
   ["egyptianhieroglyphs", "egyp"],
   ["elbasan", "elba"],
   ["elymaic", "elym"],
   ["ethiopic", "ethi"],
   ["georgian", "geor"],
   ["glagolitic", "glag"],
   ["gothic", "goth"],
   ["grantha", "gran"],
   ["greek", "grek"],
   ["gujarati", "gujr"],
   ["gunjalagondi", "gong"],
   ["gurmukhi", "guru"],
   ["han", "hani"],
   ["hangul", "hang"],
   ["hanifirohingya", "rohg"],
   ["hanunoo", "hano"],
   ["hatran", "hatr"],
   ["hebrew", "hebr"],
   ["hiragana", "hira"],
   ["imperialaramaic", "armi"],
   ["inherited", "zinh", "qaai"],
   ["inscriptionalpahlavi", "phli"],
   ["inscriptionalparthian", "prti"],
   ["javanese", "java"],
   ["kaithi", "kthi"],
   ["kannada", "knda"],
   ["katakana", "kana"],
   ["kawi"],
   ["kayahli", "kali"],
   ["kharoshthi", "khar"],
   ["khitansmallscript", "kits"],
   ["khmer", "khmr"],
   ["khojki", "khoj"],
   ["khudawadi", "sind"],
   ["lao", "laoo"],
   ["latin", "latn"],
   ["lepcha", "lepc"],
   ["limbu", "limb"],
   ["lineara", "lina"],
   ["linearb", "linb"],
   ["lisu"],
   ["lycian", "lyci"],
   ["lydian", "lydi"],
   ["mahajani", "mahj"],
   ["makasar", "maka"],
   ["malayalam", "mlym"],
   ["mandaic", "mand"],
   ["manichaean", "mani"],
   ["marchen", "marc"],
   ["masaramgondi", "gonm"],
   ["medefaidrin", "medf"],
   ["meeteimayek", "mtei"],
   ["mendekikakui", "mend"],
   ["meroiticcursive", "merc"],
   ["meroitichieroglyphs", "mero"],
   ["miao", "plrd"],
   ["modi"],
   ["mongolian", "mong"],
   ["mro", "mroo"],
   ["multani", "mult"],
   ["myanmar", "mymr"],
   ["nabataean", "nbat"],
   ["nagmundari", "nagm"],
   ["nandinagari", "nand"],
   ["newtailue", "talu"],
   ["newa"],
   ["nko", "nkoo"],
   ["nushu", "nshu"],
   ["nyiakengpuachuehmong", "hmnp"],
   ["ogham", "ogam"],
   ["olchiki", "olck"],
   ["oldhungarian", "hung"],
   ["olditalic", "ital"],
   ["oldnortharabian", "narb"],
   ["oldpermic", "perm"],
   ["oldpersian", "xpeo"],
   ["oldsogdian", "sogo"],
   ["oldsoutharabian", "sarb"],
   ["oldturkic", "orkh"],
   ["olduyghur", "ougr"],
   ["oriya", "orya"],
   ["osage", "osge"],
   ["osmanya", "osma"],
   ["pahawhhmong", "hmng"],
   ["palmyrene", "palm"],
   ["paucinhau", "pauc"],
   ["phagspa", "phag"],
   ["phoenician", "phnx"],
   ["psalterpahlavi", "phlp"],
   ["rejang", "rjng"],
   ["runic", "runr"],
   ["samaritan", "samr"],
   ["saurashtra", "saur"],
   ["sharada", "shrd"],
   ["shavian", "shaw"],
   ["siddham", "sidd"],
   ["signwriting", "sgnw"],
   ["sinhala", "sinh"],
   ["sogdian", "sogd"],
   ["sorasompeng", "sora"],
   ["soyombo", "soyo"],
   ["sundanese", "sund"],
   ["sylotinagri", "sylo"],
   ["syriac", "syrc"],
   ["tagalog", "tglg"],
   ["tagbanwa", "tagb"],
   ["taile", "tale"],
   ["taitham", "lana"],
   ["taiviet", "tavt"],
   ["takri", "takr"],
   ["tamil", "taml"],
   ["tangsa", "tnsa"],
   ["tangut", "tang"],
   ["telugu", "telu"],
   ["thaana", "thaa"],
   ["thai"],
   ["tibetan", "tibt"],
   ["tifinagh", "tfng"],
   ["tirhuta", "tirh"],
   ["toto"],
   ["ugaritic", "ugar"],
   ["unknown", "zzzz"],
   ["vai", "vaii"],
   ["vithkuqi", "vith"],
   ["wancho", "wcho"],
   ["warangciti", "wara"],
   ["yezidi", "yezi"],
   ["yi", "yiii"],
   ["zanabazarsquare", "zanb"]]

/-- Runs of code points of one script: the length of a run, then two letters that number the
script in the list of names. -/
def scriptText : List String :=
  ["65ay26cs6ay26cs47ay1cs15ay1cs5ay23cs1ay31cs1ay449cs39ay5cs5ay2am20ay112cd4br1ay3br2ga4br",
   "1ay1br4ga1br1ay1br1ay3br1ga1br1ga20br1ga63br14az16br133bd2cd169bd1ga38ae2ga50ae2ga3ae1ga",
   "55ca8ga27ca4ga6ca11ga5ad1ay6ad1ay14ad1ay3ad1ay32ad1ay10ad11cd26ad1cd108ad1ay34ad14fi1ga",
   "60fi2ga3fi48ad50ft14ga59dx2ga3dx46ew2ga15ew1ga28dd2ga1dd1ga11fi5ga31ad1ga2ad6ga74ad1ay29ad",
   "81bf4cd15bf2ay26bf4ak1ga8ak2ga2ak2ga22ak1ga7ak1ga1ak3ga4ak2ga9ak2ga2ak2ga4ak8ga1ak4ga2ak",
   "1ga5ak2ga25ak2ga3bu1ga6bu4ga2bu2ga22bu1ga7bu1ga2bu1ga2bu1ga2bu2ga1bu1ga5bu4ga2bu2ga3bu3ga",
   "1bu7ga4bu1ga1bu7ga17bu10ga3bs1ga9bs1ga3bs1ga22bs1ga7bs1ga2bs1ga5bs2ga10bs1ga3bs1ga3bs2ga",
   "1bs15ga4bs2ga12bs7ga7bs1ga3el1ga8el2ga2el2ga22el1ga7el1ga2el1ga5el2ga9el2ga2el2ga3el7ga3el",
   "4ga2el1ga5el2ga18el10ga2fp1ga6fp3ga3fp1ga4fp3ga2fp1ga1fp1ga2fp3ga2fp3ga3fp3ga12fp4ga5fp3ga",
   "3fp1ga4fp2ga1fp6ga1fp14ga21fp5ga13fs1ga3fs1ga23fs1ga16fs2ga9fs1ga3fs1ga4fs7ga2fs1ga3fs2ga",
   "1fs2ga4fs2ga10fs7ga9fs13ci1ga3ci1ga23ci1ga10ci1ga5ci2ga9ci1ga3ci1ga4ci7ga2ci6ga2ci1ga4ci",
   "2ga10ci1ga3ci12ga13dc1ga3dc1ga51dc1ga3dc1ga6dc4ga16dc2ga26dc1ga3fc1ga18fc3ga24fc1ga9fc1ga",
   "1fc2ga7fc3ga1fc4ga6fc1ga1fc1ga8fc6ga10fc2ga3fc12ga58fu4ga1ay28fu37ga2cr1ga1cr1ga5cr1ga24cr",
   "1ga1cr1ga23cr2ga5cr1ga1cr1ga7cr1ga10cr2ga4cr32ga72fv1ga36fv4ga39fv1ga36fv1ga15fv1ga7fv4ay",
   "2fv37ga160dr38bn1ga1bn5ga1bn2ga43bn1ay4bn256bw73bm1ga4bm2ga7bm1ga1bm1ga4bm2ga41bm1ga4bm2ga",
   "33bm1ga4bm2ga7bm1ga1bm1ga4bm2ga15bm1ga57bm1ga4bm2ga67bm2ga32bm3ga26bm6ga86aw2ga6aw2ga640ar",
   "29ea3ga75ev3ay11ev7ga22fj9ga1fj21by2ay9ga20aq12ga13fk1ga3fk1ga2fk12ga94co2ga10co6ga10co6ga",
   "2do2ay1do1ay20do6ga89do7ga43do5ga70ar10ga31cu1ga12cu4ga12cu4ga1cu3ga12cu30fl2ga5fl11ga44dv",
   "4ga26dv6ga11dv3ga2dv32co28ap2ga2ap63fm1ga29fm2ga11fm6ga10fm6ga14fm2ga31cd49ga77ag3ga47ag",
   "1ga64fg52aj8ga4aj56ct3ga15ct3ga3ct48eb9bd7ga43bn2ga3bn8fg8ga3cd1ay13cd1ay7cd4ay1cd6ay1cd",
   "3ay2cd1ay5ga38cs5br1bd49cs5br4cs5br13cs1bd70cs1br64cd256cs22br2ga6br2ga38br2ga6br2ga8br1ga",
   "1br1ga1br1ga1br1ga31br2ga53br1ga15br1ga14br2ga6br1ga19br2ga3br1ga9br1ga12ay2cd87ay1ga11ay",
   "1cs2ga11ay1cs15ay1ga13cs3ga33ay15ga33cd15ga38ay1br3ay2cs6ay1cs27ay1cs17ay41cs3ay4ga663ay",
   "25ga11ay21ga928ay256ao628ay2ga32ay1ga105ay96bo32cs116az5ga7az38bn1ga1bn5ga1bn2ga56fw7ga2fw",
   "14ga1fw23bm9ga7bm1ga7bm1ga7bm1ga7bm1ga7bm1ga7bm1ga7bm1ga7bm1ga32bd94ay34ga26bv1ga89bv12ga",
   "214bv26ga12ay4ga5ay1bv1ay1bv25ay9bv4cd2bw8ay4bv4ay1ga86cb2ga2cd2ay3cb1ay90cj2ay3cj5ga43am",
   "1ga94bw1ga16ay32am36ay12ga16cj31bw1ga64ay31bw81ay47cj1ay88cj168ay6592bv64ay20992bv1165gg",
   "3ga55gg9ga48cx300gb20ga96bd88ah8ga34ay102cs3ay64cs5ga2cs1ga1cs1ga5cs24ga14cs45fh3ga10ay6ga",
   "56er8ga70ex8ga12ex6ga32bf46cl1ay1cl36eu11ga1eu29bw3ga78cg1ga1ay10cg4ga2cg31dr1ga55av9ga",
   "14av2ga10av2ga4av32dr67fn24ga5fn23di10ga6bm2ga6bm2ga6bm9ga7bm1ga7bm1ga43cs1ay9cs1br4cs2ay",
   "4ga80aw46di2ga10di6ga11172bw12ga23bw4ga49bw8452ga366bv2ga106bv38ga7cs12ga5ae5ga26ca1ga5ca",
   "1ga1ca1ga2ca1ga2ca1ga10ca115ad16ga363ad2ay80ad2ga54ad7ga1ad32ga16ad16cd10ay6ga14cd2bd35ay",
   "1ga19ay1ga4ay4ga5ad1ga135ad2ga1ay1ga32ay26cs6ay26cs11ay10cj1ay45cj2ay31bw3ga6bw2ga6bw2ga",
   "6bw2ga3bw3ga7ay1ga7ay10ga5ay2ga12cw1ga26cw1ga19cw1ga2cw1ga15cw2ga14cw34ga123cw5ga3ay4ga",
   "45ay3ga9ay79br1ga13ay3ga1br47ga45ay1cd130ga29cy3ga49as15ga1cd27ay4ga36ed9ga3ed27bp5ga43ef",
   "5ga30fz1ga1fz36eg4ga14eg42ga80be48ez30en2ga10en6ga36em4ga36em4ga40bk8ga52at11ga1at11gc1ga",
   "15gc1ga7gc1ga2gc1ga11gc1ga15gc1ga7gc1ga2gc67ga311cv9ga22cv10ga8cv24ga6cs1ga42cs1ga9cs69ga",
   "6bb2ga1bb1ga44bb1ga2bb3ga1bb2ga1bb22cc1ga9cc32ep31ds8ga9ds48ga19bz1ga2bz5ga5bz28es3ga1es",
   "26cz5ga1cz64ga32dl24dk4ga20dk2ga46dk4cm1ga2cm5ga8cm1ga3cm1ga29cm2ga3cm4ga10cm7ga9cm7ga32ei",
   "32ee32ga39de4ga12de9ga54af3ga7af22cf2ga8cf19ce5ga8ce18et7ga4et12ga7et80ga73ej55ga51ec13ga",
   "51ec7ga6ec40bx8ga10bx294ga31ad1ga42gf1ga3gf2ga2gf75ga3ad40eh8ga42fd22ga26ek38ga28ax20ga",
   "23bl9ga78an4ga36an9ga1an67ch10ga1ch2ga25fe7ga10fe6ga53au1ga18au8ga39da9ga96ey1ga20fc11ga",
   "18cp1ga47cp62ga7dq1ga1dq1ga4dq1ga15dq1ga11dq6ga59cq5ga10cq6ga4bq1ga8bq2ga2bq2ga22bq1ga7bq",
   "1ga2bq1ga5bq1ga1cd9bq2ga2bq2ga3bq2ga1bq6ga1bq5ga7bq2ga7bq3ga5bq139ga92dw1ga5dw30ga72fx8ga",
   "10fx166ga54fa2ga38fa34ga69dn11ga10dn6ga13do19ga58fo6ga10fo54ga27ab2ga15ab4ga23ab185ga60bh",
   "100ga83ge12ga1ge7bg2ga1bg2ga8bg1ga2bg1ga30bg1ga2bg2ga12bg9ga10bg70ga8du2ga46du2ga11du27ga",
   "72gh8ga83ff13ga16ar57eq7ga10bf246ga9al1ga45al1ga14al10ga29al3ga32df2ga22df1ga14df73ga7dg",
   "1ga2dg1ga44dg3ga1dg1ga2dg1ga9dg8ga10dg6ga6bt1ga2bt1ga37bt1ga2bt1ga6bt7ga10bt310ga25db7ga",
   "17ck1ga41ck3ga28ck86ga1cx15ga50fp13ga1fp922ba102ga111ba1ga5ba11ga196ba2636ga99bc13ga1110bj",
   "4010ga583ac8633ga569ah7ga31dp1ga10dp4ga2dp79fq1ga10fq6ga30ai2ga6ai10ga70eo10ga10eo1ga7eo",
   "1ga21eo5ga19eo688ga91dh101ga75dm4ga57dm7ga17dm64ga1fr1dy2bv1cn11ga2bv14ga6136fr8ga768fr",
   "470cn42ga9fr8935ga4cj1ga7cj1ga2cj1ga1cj287cb3cj15ga1cb29ga3cb2ga1cj14ga4cj8ga396dy2308ga",
   "107bi5ga13bi3ga9bi7ga10bi2ga4bi4ay4700ga46cd2ga23cd9ga116ay60ga246ay10ga39ay2ga62ay3cd17ay",
   "8cd2ay7cd30ay4cd61ay21ga70br122ga20ay12ga20ay12ga87ay9ga25ay135ga85ay1ga71ay1ga2ay2ga1ay",
   "2ga2ay2ga4ay1ga12ay1ga1ay1ga7ay1ga65ay1ga4ay2ga8ay1ga7ay1ga28ay1ga4ay1ga5ay1ga1ay3ga7ay1ga",
   "340ay2ga292ay2ga50ay652fb15ga5fb1ga15fb1104ga31cs6ga6cs213ga7bo1ga17bo2ga7bo1ga2bo1ga5bo",
   "5ga62bd33ga1bd112ga45dz3ga14dz2ga10dz4ga2dz320ga31fy17ga58gd5ga1gd464ga42dt742ga7bm1ga4bm",
   "1ga2bm1ga15bm1ga197dj2ga16dj41ga76aa4ga10aa4ga2aa785ga68ay76ga61ay194ga4ad1ga27ad1ga2ad1ga",
   "1ad2ga1ad1ga10ad1ga4ad1ga1ad1ga1ad6ga1ad4ga1ad1ga1ad1ga1ad1ga3ad1ga2ad1ga1ad2ga1ad1ga1ad",
   "1ga1ad1ga1ad1ga1ad1ga2ad1ga1ad2ga4ad1ga7ad1ga4ad1ga4ad1ga1ad1ga10ad1ga17ad5ga3ad1ga5ad1ga",
   "17ad52ga2ad270ga44ay4ga100ay12ga15ay2ga15ay1ga15ay1ga37ay10ga174ay56ga26ay1cb2ay13ga44ay",
   "4ga9ay7ga2ay14ga6ay154ga984ay4ga17ay3ga13ay3ga119ay4ga95ay6ga12ay4ga1ay15ga12ay4ga56ay8ga",
   "10ay6ga40ay8ga30ay2ga2ay78ga340ay12ga14ay2ga13ay3ga9ay7ga46ay1ga7ay8ga14ay4ga9ay7ga9ay7ga",
   "147ay1ga55ay37ga10ay1030ga42720bv32ga4154bv6ga222bv2ga5762bv14ga7473bv3103ga542bv1506ga",
   "4939bv5ga4192bv711761ga1ay30ga96ay128ga240cd196112ga"]

/-- Reads runs: decimal digits for a length, then two letters for a number below 676. -/
def readScripts (start length : Nat) : List Char → List (Nat × Nat)
  | [] => []
  | c :: rest =>
    if c.isDigit then readScripts start (10 * length + (c.toNat - 48)) rest
    else
      match rest with
      | [] => []
      | d :: rest =>
        (start, 26 * (c.toNat - 97) + (d.toNat - 97)) :: readScripts (start + length) 0 rest

def scriptRuns : Runs Nat := ⟨(readScripts 0 0 (scriptText.flatMap String.toList)).toArray⟩

def scriptNumber? (name : String) : Option Nat := scriptNames.findIdx? (·.contains name)

def isInScript (number : Nat) (c : Char) : Bool := scriptRuns.find? c.toNat == some number

end ClassSwap.Unicode
