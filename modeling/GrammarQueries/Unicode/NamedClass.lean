/-
# GrammarQueries.Unicode.NamedClass -- classes of characters that have a name

Properties of characters are asked for by name: a property that holds or does
not (`\p{Alphabetic}`), a general category, a script, or a value of one of
seven properties (`\p{script=Greek}`).  Names are compared in a plain form
without case, blanks and hyphens (`plainName`).

The characters themselves are not listed.  A class is kept with its names and
the bytes that an automaton takes which reads one of its characters backwards,
byte by byte (Unicode 16).
-/

namespace GrammarQueries.Unicode

set_option autoImplicit false

/-- A class of characters with its names in plain form. -/
structure NamedClass where
  names : List String
  /-- The bytes of an automaton for one character of the class. -/
  size : Nat
  /-- The bytes of an automaton for one character outside it. -/
  sizeOfOthers : Nat
  deriving DecidableEq, Repr

/-- All characters outside a class, without a name. -/
def NamedClass.others (c : NamedClass) : NamedClass := ⟨[], c.sizeOfOthers, c.size⟩

/-! ## Names -/

/-- A character of a name in its plain form, unless it does not count there. -/
def plainCharacter? (c : Char) : Option Char :=
  if c = ' ' ∨ c = '_' ∨ c = '-' ∨ 0x80 ≤ c.toNat then none else some c.toLower

/-- A name in its plain form.  A first `is` does not count; what remains of `isc` would name
another class, so `isc` stays. -/
def plainName (name : List Char) : String :=
  match name with
  | i :: s :: rest =>
    if i.toLower = 'i' ∧ s.toLower = 's' then
      let plain := rest.filterMap plainCharacter?
      if plain = ['c'] then "isc" else String.ofList plain
    else String.ofList (name.filterMap plainCharacter?)
  | _ => String.ofList (name.filterMap plainCharacter?)

/-! ## Classes -/

def digits : NamedClass := ⟨["nd"], 5116, 12720⟩

def blanks : NamedClass := ⟨["whitespace"], 680, 1924⟩

/-- What words are made of: letters, marks, digits and what connects them. -/
def wordCharacters : NamedClass := ⟨[], 49836, 46420⟩

def binaryProperties : List NamedClass := [
  ⟨["ahex", "asciihexdigit"], 88, 1072⟩, ⟨["alpha", "alphabetic"], 47072, 44508⟩,
  ⟨["bidic", "bidicontrol"], 336, 1580⟩, ⟨["bidim", "bidimirrored"], 5560, 8336⟩,
  ⟨["ci", "caseignorable"], 24496, 34912⟩, ⟨["cwcf", "changeswhencasefolded"], 25064, 28536⟩,
  ⟨["cwcm", "changeswhencasemapped"], 8432, 10504⟩,
  ⟨["cwl", "changeswhenlowercased"], 24504, 27976⟩,
  ⟨["cwt", "changeswhentitlecased"], 25384, 28892⟩,
  ⟨["cwu", "changeswhenuppercased"], 25452, 29028⟩, ⟨["cased"], 10372, 12428⟩,
  ⟨["di", "defaultignorablecodepoint"], 1476, 4200⟩, ⟨["dash"], 1632, 4024⟩,
  ⟨["dep", "deprecated"], 736, 2668⟩, ⟨["dia", "diacritic"], 13476, 23748⟩,
  ⟨["ebase", "emojimodifierbase"], 2144, 4468⟩, ⟨["ecomp", "emojicomponent"], 908, 2864⟩,
  ⟨["emod", "emojimodifier"], 196, 1300⟩, ⟨["epres", "emojipresentation"], 4856, 6864⟩,
  ⟨["emoji"], 7660, 10332⟩, ⟨["ext", "extender"], 2980, 7820⟩,
  ⟨["extpict", "extendedpictographic"], 8172, 10396⟩, ⟨["grbase", "graphemebase"], 55192, 49984⟩,
  ⟨["grext", "graphemeextend"], 20196, 29688⟩, ⟨["grlink", "graphemelink"], 4136, 10092⟩,
  ⟨["hex", "hexdigit"], 376, 1484⟩, ⟨["hyphen"], 840, 2744⟩,
  ⟨["idcompatmathcontinue"], 1096, 2792⟩, ⟨["idcompatmathstart"], 820, 2376⟩,
  ⟨["idc", "idcontinue"], 49428, 45844⟩, ⟨["ids", "idstart"], 42868, 42864⟩,
  ⟨["idsb", "idsbinaryoperator"], 300, 1576⟩, ⟨["idst", "idstrinaryoperator"], 164, 1268⟩,
  ⟨["idsu", "idsunaryoperator"], 164, 1232⟩, ⟨["ideo", "ideographic"], 3952, 3964⟩,
  ⟨["joinc", "joincontrol"], 164, 1268⟩, ⟨["loe", "logicalorderexception"], 540, 1988⟩,
  ⟨["lower", "lowercase"], 28196, 31972⟩, ⟨["mcm", "modifiercombiningmark"], 516, 1696⟩,
  ⟨["math"], 7368, 9892⟩, ⟨["nchar", "noncharactercodepoint"], 1992, 5356⟩,
  ⟨["oalpha", "otheralphabetic"], 14576, 21096⟩,
  ⟨["odi", "otherdefaultignorablecodepoint"], 1040, 3004⟩,
  ⟨["ogrext", "othergraphemeextend"], 3368, 7584⟩, ⟨["oidc", "otheridcontinue"], 668, 2432⟩,
  ⟨["oids", "otheridstart"], 400, 1816⟩, ⟨["olower", "otherlowercase"], 1976, 4664⟩,
  ⟨["omath", "othermath"], 6700, 8764⟩, ⟨["oupper", "otheruppercase"], 640, 2048⟩,
  ⟨["pcm", "prependedconcatenationmark"], 636, 2128⟩, ⟨["patsyn", "patternsyntax"], 1792, 3244⟩,
  ⟨["patws", "patternwhitespace"], 340, 1480⟩, ⟨["qmark", "quotationmark"], 852, 2512⟩,
  ⟨["ri", "regionalindicator"], 196, 1300⟩, ⟨["radical"], 404, 1368⟩,
  ⟨["sd", "softdotted"], 2248, 5236⟩, ⟨["sterm", "sentenceterminal"], 5796, 13172⟩,
  ⟨["term", "terminalpunctuation"], 7316, 15772⟩, ⟨["uideo", "unifiedideograph"], 2776, 2824⟩,
  ⟨["upper", "uppercase"], 26976, 30720⟩, ⟨["vs", "variationselector"], 500, 1976⟩,
  ⟨["wspace", "whitespace", "space"], 680, 1924⟩, ⟨["xidc", "xidcontinue"], 49816, 46128⟩,
  ⟨["xids", "xidstart"], 43256, 43148⟩]

/-- The general categories, and three classes that are asked for like them. -/
def generalCategories : List NamedClass := [
  ⟨["c", "other"], 42824, 50380⟩, ⟨["cc", "control", "cntrl"], 204, 1032⟩,
  ⟨["cf", "format"], 1784, 4776⟩, ⟨["cn", "unassigned"], 42172, 50596⟩,
  ⟨["co", "privateuse"], 864, 1196⟩, ⟨["l", "letter"], 42732, 42836⟩,
  ⟨["lc", "casedletter"], 9576, 11324⟩, ⟨["ll", "lowercaseletter"], 27568, 31172⟩,
  ⟨["lm", "modifierletter"], 4984, 10724⟩, ⟨["lo", "otherletter"], 34076, 36720⟩,
  ⟨["lt", "titlecaseletter"], 552, 1696⟩, ⟨["lu", "uppercaseletter"], 26496, 30072⟩,
  ⟨["m", "mark", "combiningmark"], 18732, 27108⟩, ⟨["mc", "spacingmark"], 10308, 15932⟩,
  ⟨["me", "enclosingmark"], 468, 2088⟩, ⟨["mn", "nonspacingmark"], 19348, 28876⟩,
  ⟨["n", "number"], 9748, 20400⟩, ⟨["nd", "decimalnumber", "digit"], 5116, 12720⟩,
  ⟨["nl", "letternumber"], 1112, 3176⟩, ⟨["no", "othernumber"], 5100, 11008⟩,
  ⟨["p", "punctuation", "punct"], 11884, 22828⟩, ⟨["pc", "connectorpunctuation"], 540, 1884⟩,
  ⟨["pd", "dashpunctuation"], 1392, 3608⟩, ⟨["pe", "closepunctuation"], 3504, 5968⟩,
  ⟨["pf", "finalpunctuation"], 552, 1796⟩, ⟨["pi", "initialpunctuation"], 588, 1832⟩,
  ⟨["po", "otherpunctuation"], 11212, 21536⟩, ⟨["ps", "openpunctuation"], 3644, 6040⟩,
  ⟨["s", "symbol"], 15868, 21464⟩, ⟨["sc", "currencysymbol"], 1720, 4720⟩,
  ⟨["sk", "modifiersymbol"], 2020, 4500⟩, ⟨["sm", "mathsymbol"], 4160, 7488⟩,
  ⟨["so", "othersymbol"], 13196, 17224⟩, ⟨["z", "separator"], 608, 1852⟩,
  ⟨["zl", "lineseparator"], 96, 1268⟩, ⟨["zp", "paragraphseparator"], 96, 1268⟩,
  ⟨["zs", "spaceseparator"], 572, 1816⟩, ⟨["any"], 964, 64⟩, ⟨["ascii"], 72, 928⟩,
  ⟨["assigned"], 50596, 42172⟩]

def scripts : List NamedClass := [
  ⟨["adlm", "adlam"], 336, 1372⟩, ⟨["aghb", "caucasianalbanian"], 300, 1304⟩,
  ⟨["ahom"], 336, 1404⟩, ⟨["arab", "arabic"], 3268, 4608⟩,
  ⟨["armi", "imperialaramaic"], 232, 1236⟩, ⟨["armn", "armenian"], 440, 1544⟩,
  ⟨["avst", "avestan"], 232, 1200⟩, ⟨["bali", "balinese"], 268, 1200⟩,
  ⟨["bamu", "bamum"], 432, 1704⟩, ⟨["bass", "bassavah"], 232, 1372⟩,
  ⟨["batk", "batak"], 200, 1200⟩, ⟨["beng", "bengali"], 700, 1600⟩,
  ⟨["bhks", "bhaiksuki"], 372, 1440⟩, ⟨["bopo", "bopomofo"], 300, 1644⟩,
  ⟨["brah", "brahmi"], 336, 1268⟩, ⟨["brai", "braille"], 164, 1232⟩,
  ⟨["bugi", "buginese"], 200, 1236⟩, ⟨["buhd", "buhid"], 164, 1200⟩,
  ⟨["cakm", "chakma"], 300, 1368⟩, ⟨["cans", "canadianaboriginal"], 432, 1672⟩,
  ⟨["cari", "carian"], 264, 1268⟩, ⟨["cham"], 304, 1440⟩, ⟨["cher", "cherokee"], 436, 1640⟩,
  ⟨["chrs", "chorasmian"], 264, 1200⟩, ⟨["copt", "coptic", "qaac"], 336, 1472⟩,
  ⟨["cpmn", "cyprominoan"], 264, 1300⟩, ⟨["cprt", "cypriot"], 376, 1344⟩,
  ⟨["cyrl", "cyrillic"], 1244, 2964⟩, ⟨["deva", "devanagari"], 536, 1808⟩,
  ⟨["diak", "divesakuru"], 516, 1584⟩, ⟨["dogr", "dogra"], 196, 1300⟩,
  ⟨["dsrt", "deseret"], 264, 1200⟩, ⟨["dupl", "duployan"], 440, 1476⟩,
  ⟨["egyp", "egyptianhieroglyphs"], 536, 1332⟩, ⟨["elba", "elbasan"], 196, 1200⟩,
  ⟨["elym", "elymaic"], 196, 1168⟩, ⟨["ethi", "ethiopic"], 2016, 3524⟩,
  ⟨["gara", "garay"], 336, 1304⟩, ⟨["geor", "georgian"], 652, 1856⟩,
  ⟨["glag", "glagolitic"], 508, 1712⟩, ⟨["gong", "gunjalagondi"], 444, 1548⟩,
  ⟨["gonm", "masaramgondi"], 480, 1548⟩, ⟨["goth", "gothic"], 264, 1268⟩,
  ⟨["gran", "grantha"], 768, 1836⟩, ⟨["grek", "greek"], 2244, 3960⟩,
  ⟨["gujr", "gujarati"], 700, 1600⟩, ⟨["gukh", "gurungkhema"], 196, 1300⟩,
  ⟨["guru", "gurmukhi"], 772, 1708⟩, ⟨["hang", "hangul"], 1456, 2672⟩,
  ⟨["hani", "han"], 3620, 3632⟩, ⟨["hano", "hanunoo"], 164, 1236⟩,
  ⟨["hatr", "hatran"], 268, 1272⟩, ⟨["hebr", "hebrew"], 584, 1724⟩,
  ⟨["hira", "hiragana"], 740, 2216⟩, ⟨["hluw", "anatolianhieroglyphs"], 264, 1300⟩,
  ⟨["hmng", "pahawhhmong"], 476, 1476⟩, ⟨["hmnp", "nyiakengpuachuehmong"], 336, 1440⟩,
  ⟨["hung", "oldhungarian"], 300, 1268⟩, ⟨["ital", "olditalic"], 232, 1236⟩,
  ⟨["java", "javanese"], 304, 1372⟩, ⟨["kali", "kayahli"], 200, 1336⟩,
  ⟨["kana", "katakana"], 1220, 2940⟩, ⟨["kawi"], 336, 1404⟩, ⟨["khar", "kharoshthi"], 516, 1484⟩,
  ⟨["khmr", "khmer"], 372, 1408⟩, ⟨["khoj", "khojki"], 300, 1368⟩,
  ⟨["kits", "khitansmallscript"], 400, 1604⟩, ⟨["knda", "kannada"], 664, 1564⟩,
  ⟨["krai", "kiratrai"], 196, 1300⟩, ⟨["kthi", "kaithi"], 300, 1336⟩,
  ⟨["lana", "taitham"], 444, 1444⟩, ⟨["laoo", "lao"], 556, 1528⟩, ⟨["latn", "latin"], 2848, 4904⟩,
  ⟨["lepc", "lepcha"], 304, 1304⟩, ⟨["limb", "limbu"], 340, 1376⟩,
  ⟨["lina", "lineara"], 368, 1304⟩, ⟨["linb", "linearb"], 580, 1412⟩, ⟨["lisu"], 296, 1672⟩,
  ⟨["lyci", "lycian"], 196, 1200⟩, ⟨["lydi", "lydian"], 232, 1236⟩,
  ⟨["mahj", "mahajani"], 196, 1336⟩, ⟨["maka", "makasar"], 196, 1336⟩,
  ⟨["mand", "mandaic"], 200, 1136⟩, ⟨["mani", "manichaean"], 232, 1236⟩,
  ⟨["marc", "marchen"], 336, 1440⟩, ⟨["medf", "medefaidrin"], 264, 1300⟩,
  ⟨["mend", "mendekikakui"], 300, 1336⟩, ⟨["merc", "meroiticcursive"], 336, 1304⟩,
  ⟨["mero", "meroitichieroglyphs"], 196, 1200⟩, ⟨["mlym", "malayalam"], 448, 1312⟩,
  ⟨["modi"], 300, 1336⟩, ⟨["mong", "mongolian"], 540, 1780⟩, ⟨["mroo", "mro"], 268, 1372⟩,
  ⟨["mtei", "meeteimayek"], 268, 1508⟩, ⟨["mult", "multani"], 340, 1444⟩,
  ⟨["mymr", "myanmar"], 532, 2012⟩, ⟨["nagm", "nagmundari"], 196, 1336⟩,
  ⟨["nand", "nandinagari"], 336, 1440⟩, ⟨["narb", "oldnortharabian"], 196, 1200⟩,
  ⟨["nbat", "nabataean"], 232, 1236⟩, ⟨["newa"], 300, 1336⟩, ⟨["nkoo", "nko"], 168, 1032⟩,
  ⟨["nshu", "nushu"], 432, 1672⟩, ⟨["ogam", "ogham"], 164, 1200⟩,
  ⟨["olck", "olchiki"], 164, 1200⟩, ⟨["onao", "olonal"], 232, 1336⟩,
  ⟨["orkh", "oldturkic"], 264, 1200⟩, ⟨["orya", "oriya"], 700, 1636⟩,
  ⟨["osge", "osage"], 300, 1304⟩, ⟨["osma", "osmanya"], 232, 1236⟩,
  ⟨["ougr", "olduyghur"], 264, 1268⟩, ⟨["palm", "palmyrene"], 196, 1200⟩,
  ⟨["pauc", "paucinhau"], 196, 1300⟩, ⟨["perm", "oldpermic"], 196, 1236⟩,
  ⟨["phag", "phagspa"], 164, 1300⟩, ⟨["phli", "inscriptionalpahlavi"], 232, 1236⟩,
  ⟨["phlp", "psalterpahlavi"], 268, 1272⟩, ⟨["phnx", "phoenician"], 232, 1236⟩,
  ⟨["plrd", "miao"], 404, 1404⟩, ⟨["prti", "inscriptionalparthian"], 232, 1236⟩,
  ⟨["rjng", "rejang"], 268, 1404⟩, ⟨["rohg", "hanifirohingya"], 232, 1236⟩,
  ⟨["runr", "runic"], 268, 1304⟩, ⟨["samr", "samaritan"], 200, 1068⟩,
  ⟨["sarb", "oldsoutharabian"], 196, 1200⟩, ⟨["saur", "saurashtra"], 268, 1336⟩,
  ⟨["sgnw", "signwriting"], 336, 1372⟩, ⟨["shaw", "shavian"], 196, 1200⟩,
  ⟨["shrd", "sharada"], 264, 1300⟩, ⟨["sidd", "siddham"], 300, 1368⟩,
  ⟨["sind", "khudawadi"], 300, 1404⟩, ⟨["sinh", "sinhala"], 724, 1936⟩,
  ⟨["sogd", "sogdian"], 264, 1268⟩, ⟨["sogo", "oldsogdian"], 196, 1200⟩,
  ⟨["sora", "sorasompeng"], 232, 1372⟩, ⟨["soyo", "soyombo"], 264, 1368⟩,
  ⟨["sund", "sundanese"], 232, 1268⟩, ⟨["sunu", "sunuwar"], 232, 1336⟩,
  ⟨["sylo", "sylotinagri"], 164, 1300⟩, ⟨["syrc", "syriac"], 372, 1376⟩,
  ⟨["tagb", "tagbanwa"], 236, 1308⟩, ⟨["takr", "takri"], 264, 1368⟩,
  ⟨["tale", "taile"], 200, 1272⟩, ⟨["talu", "newtailue"], 340, 1340⟩,
  ⟨["taml", "tamil"], 940, 1976⟩, ⟨["tang", "tangut"], 600, 1572⟩,
  ⟨["tavt", "taiviet"], 268, 1336⟩, ⟨["telu", "telugu"], 664, 1528⟩,
  ⟨["tfng", "tifinagh"], 304, 1404⟩, ⟨["tglg", "tagalog"], 200, 1236⟩,
  ⟨["thaa", "thaana"], 132, 1100⟩, ⟨["thai"], 232, 1204⟩, ⟨["tibt", "tibetan"], 584, 1312⟩,
  ⟨["tirh", "tirhuta"], 300, 1336⟩, ⟨["tnsa", "tangsa"], 332, 1436⟩,
  ⟨["todr", "todhri"], 196, 1200⟩, ⟨["toto"], 196, 1336⟩, ⟨["tutg", "tulutigalari"], 624, 1692⟩,
  ⟨["ugar", "ugaritic"], 232, 1236⟩, ⟨["vaii", "vai"], 232, 1300⟩,
  ⟨["vith", "vithkuqi"], 516, 1520⟩, ⟨["wara", "warangciti"], 300, 1368⟩,
  ⟨["wcho", "wancho"], 232, 1300⟩, ⟨["xpeo", "oldpersian"], 300, 1304⟩,
  ⟨["xsux", "cuneiform"], 572, 1472⟩, ⟨["yezi", "yezidi"], 268, 1272⟩,
  ⟨["yiii", "yi"], 336, 1300⟩, ⟨["zanb", "zanabazarsquare"], 264, 1300⟩,
  ⟨["zinh", "inherited", "qaai"], 2408, 5400⟩, ⟨["zyyy", "common"], 12544, 15588⟩]

/-- What was assigned in a version and before. -/
def ages : List NamedClass := [
  ⟨["1.1", "v11"], 16976, 16296⟩, ⟨["2.0", "v20"], 19596, 20236⟩, ⟨["2.1", "v21"], 19596, 20236⟩,
  ⟨["3.0", "v30"], 23448, 22988⟩, ⟨["3.1", "v31"], 26276, 25492⟩, ⟨["3.2", "v32"], 26168, 24872⟩,
  ⟨["4.0", "v40"], 27036, 25908⟩, ⟨["4.1", "v41"], 28760, 26864⟩, ⟨["5.0", "v50"], 29484, 27652⟩,
  ⟨["5.1", "v51"], 30896, 28368⟩, ⟨["5.2", "v52"], 33396, 30452⟩, ⟨["6.0", "v60"], 35372, 32048⟩,
  ⟨["6.1", "v61"], 37296, 33980⟩, ⟨["6.2", "v62"], 37296, 33980⟩, ⟨["6.3", "v63"], 37296, 33980⟩,
  ⟨["7.0", "v70"], 41612, 37448⟩, ⟨["8.0", "v80"], 42648, 38240⟩, ⟨["9.0", "v90"], 44312, 39428⟩,
  ⟨["10.0", "v100"], 45516, 39908⟩, ⟨["11.0", "v110"], 46548, 41136⟩,
  ⟨["12.0", "v120"], 47412, 41820⟩, ⟨["12.1", "v121"], 47276, 41752⟩,
  ⟨["13.0", "v130"], 48276, 42240⟩, ⟨["14.0", "v140"], 49064, 43228⟩,
  ⟨["15.0", "v150"], 50096, 43808⟩, ⟨["15.1", "v151"], 50268, 43840⟩,
  ⟨["16.0", "v160"], 51556, 44820⟩]

def graphemeBreaks : List NamedClass := [
  ⟨["cn", "control"], 1556, 3920⟩, ⟨["cr"], 32, 1000⟩, ⟨["ex", "extend"], 19632, 29192⟩,
  ⟨["l"], 332, 1572⟩, ⟨["lf"], 32, 1000⟩, ⟨["lv"], 20156, 26492⟩, ⟨["lvt"], 25556, 21128⟩,
  ⟨["pp", "prepend"], 1180, 3400⟩, ⟨["ri", "regionalindicator"], 196, 1300⟩,
  ⟨["sm", "spacingmark"], 9312, 14764⟩, ⟨["t"], 332, 1304⟩, ⟨["v"], 400, 1404⟩,
  ⟨["zwj"], 96, 1268⟩]

def wordBreaks : List NamedClass := [
  ⟨["cr"], 32, 1000⟩, ⟨["dq", "doublequote"], 32, 1000⟩, ⟨["ex", "extendnumlet"], 576, 1920⟩,
  ⟨["extend"], 18512, 26920⟩, ⟨["fo", "format"], 1680, 4776⟩, ⟨["hl", "hebrewletter"], 552, 1728⟩,
  ⟨["ka", "katakana"], 1288, 3044⟩, ⟨["le", "aletter"], 35008, 37664⟩, ⟨["lf"], 32, 1000⟩,
  ⟨["mb", "midnumlet"], 440, 1820⟩, ⟨["ml", "midletter"], 708, 2472⟩,
  ⟨["mn", "midnum"], 920, 2788⟩, ⟨["nl", "newline"], 268, 1408⟩, ⟨["nu", "numeric"], 4676, 11692⟩,
  ⟨["ri", "regionalindicator"], 196, 1300⟩, ⟨["sq", "singlequote"], 32, 1000⟩,
  ⟨["wsegspace"], 504, 1712⟩, ⟨["zwj"], 96, 1268⟩]

def sentenceBreaks : List NamedClass := [
  ⟨["at", "aterm"], 368, 1748⟩, ⟨["cl", "close"], 2584, 5184⟩, ⟨["cr"], 32, 1000⟩,
  ⟨["ex", "extend"], 18412, 26684⟩, ⟨["fo", "format"], 1716, 4812⟩,
  ⟨["le", "oletter"], 34536, 37768⟩, ⟨["lf"], 32, 1000⟩, ⟨["lo", "lower"], 27880, 31624⟩,
  ⟨["nu", "numeric"], 4676, 11692⟩, ⟨["sc", "scontinue"], 1196, 3068⟩, ⟨["se", "sep"], 232, 1372⟩,
  ⟨["sp"], 644, 1888⟩, ⟨["st", "sterm"], 5240, 12268⟩, ⟨["up", "upper"], 26768, 30340⟩]

/-! ## Asking -/

def classOf? (classes : List NamedClass) (name : List Char) : Option NamedClass :=
  let plain := plainName name
  classes.find? (fun c => c.names.contains plain)

def namedClass? (name : List Char) : Option NamedClass :=
  classOf? (binaryProperties ++ generalCategories ++ scripts) name

/-- The values of a property that has classes as values. -/
def valuesOf (property : List Char) : List NamedClass :=
  let plain := plainName property
  if ["gc", "generalcategory"].contains plain then generalCategories
  else if ["sc", "script", "scx", "scriptextensions"].contains plain then scripts
  else if plain = "age" then ages
  else if ["gcb", "graphemeclusterbreak"].contains plain then graphemeBreaks
  else if ["wb", "wordbreak"].contains plain then wordBreaks
  else if ["sb", "sentencebreak"].contains plain then sentenceBreaks
  else []

/-- The class of the characters that have a value of a property. -/
def valueClass? (property value : List Char) : Option NamedClass :=
  classOf? (valuesOf property) value

end GrammarQueries.Unicode
