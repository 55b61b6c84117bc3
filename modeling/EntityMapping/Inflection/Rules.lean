import EntityMapping.Inflection.Pattern

/-! # Rules of English number

Irregular pairs, words without a plural, and the endings that take a form of their own. Later
rules are the more special ones. In a replacement `$0` stands for the matched text and `$1`,
`$2` for the parts that its groups took.
-/

namespace EntityMapping.Inflection

/-- A word ending and the text that takes its place. -/
structure Rule where
  pattern : Pattern
  replacement : String

def irregularPairs : List (String × String) :=
  [("I", "we"), ("me", "us"), ("he", "they"), ("she", "they"), ("them", "them"),
   ("myself", "ourselves"), ("yourself", "yourselves"), ("itself", "themselves"),
   ("herself", "themselves"), ("himself", "themselves"), ("themself", "themselves"),
   ("is", "are"), ("was", "were"), ("has", "have"), ("this", "these"), ("that", "those"),
   ("my", "our"), ("its", "their"), ("his", "their"), ("her", "their"),
   ("echo", "echoes"), ("dingo", "dingoes"), ("volcano", "volcanoes"), ("tornado", "tornadoes"),
   ("torpedo", "torpedoes"),
   ("genus", "genera"), ("viscus", "viscera"),
   ("stigma", "stigmata"), ("stoma", "stomata"), ("dogma", "dogmata"), ("lemma", "lemmata"),
   ("schema", "schemata"), ("anathema", "anathemata"),
   ("ox", "oxen"), ("axe", "axes"), ("die", "dice"), ("yes", "yeses"), ("foot", "feet"),
   ("eave", "eaves"), ("goose", "geese"), ("tooth", "teeth"), ("quiz", "quizzes"),
   ("human", "humans"), ("proof", "proofs"), ("carve", "carves"), ("valve", "valves"),
   ("looey", "looies"), ("thief", "thieves"), ("groove", "grooves"), ("pickaxe", "pickaxes"),
   ("passerby", "passersby"), ("canvas", "canvases")]

def uncountableWords : List String :=
  ["adulthood", "advice", "agenda", "aid", "aircraft", "alcohol", "ammo", "analytics", "anime",
   "athletics", "audio", "bison", "blood", "bream", "buffalo", "butter", "carp", "cash",
   "chassis", "chess", "clothing", "cod", "commerce", "cooperation", "corps", "debris",
   "diabetes", "digestion", "elk", "energy", "equipment", "excretion", "expertise", "firmware",
   "flounder", "fun", "gallows", "garbage", "graffiti", "hardware", "headquarters", "health",
   "herpes", "highjinks", "homework", "housework", "information", "jeans", "justice", "kudos",
   "labour", "literature", "machinery", "mackerel", "mail", "media", "mews", "moose", "music",
   "mud", "manga", "news", "only", "personnel", "pike", "plankton", "pliers", "police",
   "pollution", "premises", "rain", "research", "rice", "salmon", "scissors", "series", "sewage",
   "shambles", "shrimp", "software", "staff", "swine", "tennis", "traffic", "transportation",
   "trout", "tuna", "wealth", "welfare", "whiting", "wildebeest", "wildlife", "you"]

namespace Rule

open Pattern

def ending (p : Pattern) (replacement : String) : Rule := ⟨p ++ atEnd, replacement⟩

/-- The rule for a kept stem before one of the given endings. -/
def stem (p endings : Pattern) (replacement : String) : Rule :=
  ending (group p ++ endings) replacement

/-- The rule for an ending that stays as it is, apart from what is added to it. -/
def kept (p : Pattern) (replacement : String) : Rule := ending (group p) replacement

/-- Endings of words that are the same in both numbers. -/
def unchanged : List Rule :=
  [ending (word "pok" ++ oneOf "eé" ++ word "mon") "$0",
   ending (noneOf "aeiou" ++ word "ese") "$0",
   ending (word "deer") "$0",
   ending (word "fish") "$0",
   ending (word "measles") "$0",
   ending (letter 'o' ++ oneOf "iu" ++ letter 's') "$0",
   ending (word "pox") "$0",
   ending (word "sheep") "$0"]

/-- Latin masculine stems that end in `us` or `i`. -/
def masculineStems : Pattern :=
  anyOf ["alumn", "syllab", "vir", "radi", "nucle", "fung", "cact", "stimul", "termin", "bacill",
    "foc", "uter", "loc", "strat"]

def plural : List Rule :=
  [ending (opt (letter 's')) "s",
   ending nonAscii "$0",
   kept (noneOf "aeiou" ++ word "ese") "$1",
   stem (anyOf ["ax", "test"]) (word "is") "$1es",
   kept (choice [word "alias", noneOf "aou" ++ word "us", letter 't' ++ oneOf "lm" ++ word "as",
     word "gas", word "ris"]) "$1es",
   stem (letter 'e' ++ oneOf "mn" ++ letter 'u') (opt (letter 's')) "$1s",
   kept (choice [noneOf "l" ++ word "ias", oneOf "aeiou" ++ word "las", oneOf "ejzr" ++ word "as",
     oneOf "iu" ++ word "am"]) "$1",
   stem masculineStems (anyOf ["us", "i"]) "$1i",
   stem (anyOf ["alumn", "alg", "vertebr"]) (anyOf ["a", "ae"]) "$1ae",
   stem (anyOf ["seraph", "cherub"]) (opt (word "im")) "$1im",
   stem (anyOf ["her", "at", "gr"]) (letter 'o') "$1oes",
   stem (anyOf ["agend", "addend", "millenni", "dat", "extrem", "bacteri", "desiderat", "strat",
     "candelabr", "errat", "ov", "symposi", "curricul", "automat", "quor"]) (anyOf ["a", "um"])
     "$1a",
   stem (anyOf ["apheli", "hyperbat", "periheli", "asyndet", "noumen", "phenomen", "criteri",
     "organ", "prolegomen", "hedr", "automat"]) (anyOf ["a", "on"]) "$1a",
   ending (word "sis") "ses",
   ending (alt (group (anyOf ["kni", "wi", "li"]) ++ word "fe")
     (group (anyOf ["ar", "l", "ea", "eo", "oa", "hoo"]) ++ letter 'f')) "$1$2ves",
   stem (alt (noneOf "aeiouy") (word "qu")) (letter 'y') "$1ies",
   stem (noneOf "ch" ++ oneOf "ieo" ++ oneOf "ln") (word "ey") "$1ies",
   kept (anyOf ["x", "ch", "ss", "sh", "zz"]) "$1es",
   stem (anyOf ["matr", "cod", "mur", "sil", "vert", "ind", "append"]) (anyOf ["ix", "ex"])
     "$1ices",
   ending (boundary ++ group (alt (opt (word "tit") ++ letter 'm') (letter 'l')) ++
     anyOf ["ice", "ouse"]) "$1ice",
   stem (word "pe") (anyOf ["rson", "ople"]) "$1ople",
   stem (word "child") (opt (word "ren")) "$1ren",
   ending (word "eaux") "$0",
   ending (letter 'm' ++ oneOf "ae" ++ letter 'n') "men",
   ending (atStart ++ word "thou") "you"]

def singular : List Rule :=
  [ending (letter 's') "",
   kept (word "ss") "$1",
   stem (choice [word "wi", word "kni",
     choice [word "after", word "half", word "high", word "low", word "mid", word "non",
       word "night", nonWord, atStart] ++ word "li"]) (word "ves") "$1fe",
   stem (choice [word "ar", alt (word "wo") (oneOf "ae") ++ letter 'l', oneOf "eo" ++ oneOf "ao"])
     (word "ves") "$1f",
   ending (word "ies") "y",
   stem (anyOf ["dg", "ss", "ois", "lk", "ok", "wn", "mb", "th", "ch", "ec", "oal", "is", "ck",
     "ix", "sser", "ts", "wb"]) (word "ies") "$1ie",
   ending (boundary ++ group (choice [word "l",
     opt (anyOf ["neck", "cross", "hog", "aun"]) ++ letter 't', word "coll", word "faer",
     word "food", word "gen", word "goon", word "group", word "hipp", word "junk", word "vegg",
     opt (word "pork") ++ letter 'p', word "charl", word "calor", word "cut"]) ++ word "ies")
     "$1ie",
   ending (boundary ++ group (anyOf ["mon", "smil"]) ++ word "ies") "$1ey",
   ending (boundary ++ group (alt (opt (word "tit") ++ letter 'm') (letter 'l')) ++ word "ice")
     "$1ouse",
   stem (anyOf ["seraph", "cherub"]) (word "im") "$1",
   stem (choice [word "x", word "ch", word "ss", word "sh", word "zz", word "tto", word "go",
     word "cho", word "alias", noneOf "aou" ++ word "us", letter 't' ++ oneOf "lm" ++ word "as",
     word "gas", anyOf ["her", "at", "gr"] ++ letter 'o', oneOf "aeiou" ++ word "ris"])
     (opt (word "es")) "$1",
   stem (anyOf ["analy", "diagno", "parenthe", "progno", "synop", "the", "empha", "cri", "ne"])
     (anyOf ["sis", "ses"]) "$1sis",
   stem (choice [word "movie", word "twelve", word "abuse",
     letter 'e' ++ oneOf "mn" ++ letter 'u']) (letter 's') "$1",
   stem (word "test") (anyOf ["is", "es"]) "$1is",
   stem masculineStems (anyOf ["us", "i"]) "$1us",
   stem (anyOf ["agend", "addend", "millenni", "dat", "extrem", "bacteri", "desiderat", "strat",
     "candelabr", "errat", "ov", "symposi", "curricul", "quor"]) (letter 'a') "$1um",
   stem (anyOf ["apheli", "hyperbat", "periheli", "asyndet", "noumen", "phenomen", "criteri",
     "organ", "prolegomen", "hedr", "automat"]) (letter 'a') "$1on",
   stem (anyOf ["alumn", "alg", "vertebr"]) (word "ae") "$1a",
   stem (anyOf ["cod", "mur", "sil", "vert", "ind"]) (word "ices") "$1ex",
   stem (anyOf ["matr", "append"]) (word "ices") "$1ix",
   stem (word "pe") (group (anyOf ["rson", "ople"])) "$1rson",
   stem (word "child") (word "ren") "$1",
   stem (word "eau") (opt (letter 'x')) "$1",
   ending (word "men") "man"]

end Rule

end EntityMapping.Inflection
