import TaggedMarkup.Text.CharacterReference.Basic

/-! The named character references that begin with a capital letter. -/

namespace TaggedMarkup.Text.CharacterReference

/-- The names that begin with capital A. -/
def capitalA : List Name :=
  [⟨"AElig", [0xc6], true⟩, ⟨"AMP", [0x26], true⟩, ⟨"Aacute", [0xc1], true⟩,
    ⟨"Abreve", [0x102], false⟩, ⟨"Acirc", [0xc2], true⟩, ⟨"Acy", [0x410], false⟩,
    ⟨"Afr", [0x1d504], false⟩, ⟨"Agrave", [0xc0], true⟩, ⟨"Alpha", [0x391], false⟩,
    ⟨"Amacr", [0x100], false⟩, ⟨"And", [0x2a53], false⟩, ⟨"Aogon", [0x104], false⟩,
    ⟨"Aopf", [0x1d538], false⟩, ⟨"ApplyFunction", [0x2061], false⟩, ⟨"Aring", [0xc5], true⟩,
    ⟨"Ascr", [0x1d49c], false⟩, ⟨"Assign", [0x2254], false⟩, ⟨"Atilde", [0xc3], true⟩,
    ⟨"Auml", [0xc4], true⟩]

/-- The names that begin with capital B. -/
def capitalB : List Name :=
  [⟨"Backslash", [0x2216], false⟩, ⟨"Barv", [0x2ae7], false⟩, ⟨"Barwed", [0x2306], false⟩,
    ⟨"Bcy", [0x411], false⟩, ⟨"Because", [0x2235], false⟩, ⟨"Bernoullis", [0x212c], false⟩,
    ⟨"Beta", [0x392], false⟩, ⟨"Bfr", [0x1d505], false⟩, ⟨"Bopf", [0x1d539], false⟩,
    ⟨"Breve", [0x2d8], false⟩, ⟨"Bscr", [0x212c], false⟩, ⟨"Bumpeq", [0x224e], false⟩]

/-- The names that begin with capital C. -/
def capitalC : List Name :=
  [⟨"CHcy", [0x427], false⟩, ⟨"COPY", [0xa9], true⟩, ⟨"Cacute", [0x106], false⟩,
    ⟨"Cap", [0x22d2], false⟩, ⟨"CapitalDifferentialD", [0x2145], false⟩,
    ⟨"Cayleys", [0x212d], false⟩, ⟨"Ccaron", [0x10c], false⟩, ⟨"Ccedil", [0xc7], true⟩,
    ⟨"Ccirc", [0x108], false⟩, ⟨"Cconint", [0x2230], false⟩, ⟨"Cdot", [0x10a], false⟩,
    ⟨"Cedilla", [0xb8], false⟩, ⟨"CenterDot", [0xb7], false⟩, ⟨"Cfr", [0x212d], false⟩,
    ⟨"Chi", [0x3a7], false⟩, ⟨"CircleDot", [0x2299], false⟩, ⟨"CircleMinus", [0x2296], false⟩,
    ⟨"CirclePlus", [0x2295], false⟩, ⟨"CircleTimes", [0x2297], false⟩,
    ⟨"ClockwiseContourIntegral", [0x2232], false⟩, ⟨"CloseCurlyDoubleQuote", [0x201d], false⟩,
    ⟨"CloseCurlyQuote", [0x2019], false⟩, ⟨"Colon", [0x2237], false⟩,
    ⟨"Colone", [0x2a74], false⟩, ⟨"Congruent", [0x2261], false⟩, ⟨"Conint", [0x222f], false⟩,
    ⟨"ContourIntegral", [0x222e], false⟩, ⟨"Copf", [0x2102], false⟩,
    ⟨"Coproduct", [0x2210], false⟩, ⟨"CounterClockwiseContourIntegral", [0x2233], false⟩,
    ⟨"Cross", [0x2a2f], false⟩, ⟨"Cscr", [0x1d49e], false⟩, ⟨"Cup", [0x22d3], false⟩,
    ⟨"CupCap", [0x224d], false⟩]

/-- The names that begin with capital D. -/
def capitalD : List Name :=
  [⟨"DD", [0x2145], false⟩, ⟨"DDotrahd", [0x2911], false⟩, ⟨"DJcy", [0x402], false⟩,
    ⟨"DScy", [0x405], false⟩, ⟨"DZcy", [0x40f], false⟩, ⟨"Dagger", [0x2021], false⟩,
    ⟨"Darr", [0x21a1], false⟩, ⟨"Dashv", [0x2ae4], false⟩, ⟨"Dcaron", [0x10e], false⟩,
    ⟨"Dcy", [0x414], false⟩, ⟨"Del", [0x2207], false⟩, ⟨"Delta", [0x394], false⟩,
    ⟨"Dfr", [0x1d507], false⟩, ⟨"DiacriticalAcute", [0xb4], false⟩,
    ⟨"DiacriticalDot", [0x2d9], false⟩, ⟨"DiacriticalDoubleAcute", [0x2dd], false⟩,
    ⟨"DiacriticalGrave", [0x60], false⟩, ⟨"DiacriticalTilde", [0x2dc], false⟩,
    ⟨"Diamond", [0x22c4], false⟩, ⟨"DifferentialD", [0x2146], false⟩,
    ⟨"Dopf", [0x1d53b], false⟩, ⟨"Dot", [0xa8], false⟩, ⟨"DotDot", [0x20dc], false⟩,
    ⟨"DotEqual", [0x2250], false⟩, ⟨"DoubleContourIntegral", [0x222f], false⟩,
    ⟨"DoubleDot", [0xa8], false⟩, ⟨"DoubleDownArrow", [0x21d3], false⟩,
    ⟨"DoubleLeftArrow", [0x21d0], false⟩, ⟨"DoubleLeftRightArrow", [0x21d4], false⟩,
    ⟨"DoubleLeftTee", [0x2ae4], false⟩, ⟨"DoubleLongLeftArrow", [0x27f8], false⟩,
    ⟨"DoubleLongLeftRightArrow", [0x27fa], false⟩, ⟨"DoubleLongRightArrow", [0x27f9], false⟩,
    ⟨"DoubleRightArrow", [0x21d2], false⟩, ⟨"DoubleRightTee", [0x22a8], false⟩,
    ⟨"DoubleUpArrow", [0x21d1], false⟩, ⟨"DoubleUpDownArrow", [0x21d5], false⟩,
    ⟨"DoubleVerticalBar", [0x2225], false⟩, ⟨"DownArrow", [0x2193], false⟩,
    ⟨"DownArrowBar", [0x2913], false⟩, ⟨"DownArrowUpArrow", [0x21f5], false⟩,
    ⟨"DownBreve", [0x311], false⟩, ⟨"DownLeftRightVector", [0x2950], false⟩,
    ⟨"DownLeftTeeVector", [0x295e], false⟩, ⟨"DownLeftVector", [0x21bd], false⟩,
    ⟨"DownLeftVectorBar", [0x2956], false⟩, ⟨"DownRightTeeVector", [0x295f], false⟩,
    ⟨"DownRightVector", [0x21c1], false⟩, ⟨"DownRightVectorBar", [0x2957], false⟩,
    ⟨"DownTee", [0x22a4], false⟩, ⟨"DownTeeArrow", [0x21a7], false⟩,
    ⟨"Downarrow", [0x21d3], false⟩, ⟨"Dscr", [0x1d49f], false⟩, ⟨"Dstrok", [0x110], false⟩]

/-- The names that begin with capital E. -/
def capitalE : List Name :=
  [⟨"ENG", [0x14a], false⟩, ⟨"ETH", [0xd0], true⟩, ⟨"Eacute", [0xc9], true⟩,
    ⟨"Ecaron", [0x11a], false⟩, ⟨"Ecirc", [0xca], true⟩, ⟨"Ecy", [0x42d], false⟩,
    ⟨"Edot", [0x116], false⟩, ⟨"Efr", [0x1d508], false⟩, ⟨"Egrave", [0xc8], true⟩,
    ⟨"Element", [0x2208], false⟩, ⟨"Emacr", [0x112], false⟩,
    ⟨"EmptySmallSquare", [0x25fb], false⟩, ⟨"EmptyVerySmallSquare", [0x25ab], false⟩,
    ⟨"Eogon", [0x118], false⟩, ⟨"Eopf", [0x1d53c], false⟩, ⟨"Epsilon", [0x395], false⟩,
    ⟨"Equal", [0x2a75], false⟩, ⟨"EqualTilde", [0x2242], false⟩,
    ⟨"Equilibrium", [0x21cc], false⟩, ⟨"Escr", [0x2130], false⟩, ⟨"Esim", [0x2a73], false⟩,
    ⟨"Eta", [0x397], false⟩, ⟨"Euml", [0xcb], true⟩, ⟨"Exists", [0x2203], false⟩,
    ⟨"ExponentialE", [0x2147], false⟩]

/-- The names that begin with capital F. -/
def capitalF : List Name :=
  [⟨"Fcy", [0x424], false⟩, ⟨"Ffr", [0x1d509], false⟩, ⟨"FilledSmallSquare", [0x25fc], false⟩,
    ⟨"FilledVerySmallSquare", [0x25aa], false⟩, ⟨"Fopf", [0x1d53d], false⟩,
    ⟨"ForAll", [0x2200], false⟩, ⟨"Fouriertrf", [0x2131], false⟩, ⟨"Fscr", [0x2131], false⟩]

/-- The names that begin with capital G. -/
def capitalG : List Name :=
  [⟨"GJcy", [0x403], false⟩, ⟨"GT", [0x3e], true⟩, ⟨"Gamma", [0x393], false⟩,
    ⟨"Gammad", [0x3dc], false⟩, ⟨"Gbreve", [0x11e], false⟩, ⟨"Gcedil", [0x122], false⟩,
    ⟨"Gcirc", [0x11c], false⟩, ⟨"Gcy", [0x413], false⟩, ⟨"Gdot", [0x120], false⟩,
    ⟨"Gfr", [0x1d50a], false⟩, ⟨"Gg", [0x22d9], false⟩, ⟨"Gopf", [0x1d53e], false⟩,
    ⟨"GreaterEqual", [0x2265], false⟩, ⟨"GreaterEqualLess", [0x22db], false⟩,
    ⟨"GreaterFullEqual", [0x2267], false⟩, ⟨"GreaterGreater", [0x2aa2], false⟩,
    ⟨"GreaterLess", [0x2277], false⟩, ⟨"GreaterSlantEqual", [0x2a7e], false⟩,
    ⟨"GreaterTilde", [0x2273], false⟩, ⟨"Gscr", [0x1d4a2], false⟩, ⟨"Gt", [0x226b], false⟩]

/-- The names that begin with capital H. -/
def capitalH : List Name :=
  [⟨"HARDcy", [0x42a], false⟩, ⟨"Hacek", [0x2c7], false⟩, ⟨"Hat", [0x5e], false⟩,
    ⟨"Hcirc", [0x124], false⟩, ⟨"Hfr", [0x210c], false⟩, ⟨"HilbertSpace", [0x210b], false⟩,
    ⟨"Hopf", [0x210d], false⟩, ⟨"HorizontalLine", [0x2500], false⟩, ⟨"Hscr", [0x210b], false⟩,
    ⟨"Hstrok", [0x126], false⟩, ⟨"HumpDownHump", [0x224e], false⟩,
    ⟨"HumpEqual", [0x224f], false⟩]

/-- The names that begin with capital I. -/
def capitalI : List Name :=
  [⟨"IEcy", [0x415], false⟩, ⟨"IJlig", [0x132], false⟩, ⟨"IOcy", [0x401], false⟩,
    ⟨"Iacute", [0xcd], true⟩, ⟨"Icirc", [0xce], true⟩, ⟨"Icy", [0x418], false⟩,
    ⟨"Idot", [0x130], false⟩, ⟨"Ifr", [0x2111], false⟩, ⟨"Igrave", [0xcc], true⟩,
    ⟨"Im", [0x2111], false⟩, ⟨"Imacr", [0x12a], false⟩, ⟨"ImaginaryI", [0x2148], false⟩,
    ⟨"Implies", [0x21d2], false⟩, ⟨"Int", [0x222c], false⟩, ⟨"Integral", [0x222b], false⟩,
    ⟨"Intersection", [0x22c2], false⟩, ⟨"InvisibleComma", [0x2063], false⟩,
    ⟨"InvisibleTimes", [0x2062], false⟩, ⟨"Iogon", [0x12e], false⟩, ⟨"Iopf", [0x1d540], false⟩,
    ⟨"Iota", [0x399], false⟩, ⟨"Iscr", [0x2110], false⟩, ⟨"Itilde", [0x128], false⟩,
    ⟨"Iukcy", [0x406], false⟩, ⟨"Iuml", [0xcf], true⟩]

/-- The names that begin with capital J. -/
def capitalJ : List Name :=
  [⟨"Jcirc", [0x134], false⟩, ⟨"Jcy", [0x419], false⟩, ⟨"Jfr", [0x1d50d], false⟩,
    ⟨"Jopf", [0x1d541], false⟩, ⟨"Jscr", [0x1d4a5], false⟩, ⟨"Jsercy", [0x408], false⟩,
    ⟨"Jukcy", [0x404], false⟩]

/-- The names that begin with capital K. -/
def capitalK : List Name :=
  [⟨"KHcy", [0x425], false⟩, ⟨"KJcy", [0x40c], false⟩, ⟨"Kappa", [0x39a], false⟩,
    ⟨"Kcedil", [0x136], false⟩, ⟨"Kcy", [0x41a], false⟩, ⟨"Kfr", [0x1d50e], false⟩,
    ⟨"Kopf", [0x1d542], false⟩, ⟨"Kscr", [0x1d4a6], false⟩]

/-- The names that begin with capital L. -/
def capitalL : List Name :=
  [⟨"LJcy", [0x409], false⟩, ⟨"LT", [0x3c], true⟩, ⟨"Lacute", [0x139], false⟩,
    ⟨"Lambda", [0x39b], false⟩, ⟨"Lang", [0x27ea], false⟩, ⟨"Laplacetrf", [0x2112], false⟩,
    ⟨"Larr", [0x219e], false⟩, ⟨"Lcaron", [0x13d], false⟩, ⟨"Lcedil", [0x13b], false⟩,
    ⟨"Lcy", [0x41b], false⟩, ⟨"LeftAngleBracket", [0x27e8], false⟩,
    ⟨"LeftArrow", [0x2190], false⟩, ⟨"LeftArrowBar", [0x21e4], false⟩,
    ⟨"LeftArrowRightArrow", [0x21c6], false⟩, ⟨"LeftCeiling", [0x2308], false⟩,
    ⟨"LeftDoubleBracket", [0x27e6], false⟩, ⟨"LeftDownTeeVector", [0x2961], false⟩,
    ⟨"LeftDownVector", [0x21c3], false⟩, ⟨"LeftDownVectorBar", [0x2959], false⟩,
    ⟨"LeftFloor", [0x230a], false⟩, ⟨"LeftRightArrow", [0x2194], false⟩,
    ⟨"LeftRightVector", [0x294e], false⟩, ⟨"LeftTee", [0x22a3], false⟩,
    ⟨"LeftTeeArrow", [0x21a4], false⟩, ⟨"LeftTeeVector", [0x295a], false⟩,
    ⟨"LeftTriangle", [0x22b2], false⟩, ⟨"LeftTriangleBar", [0x29cf], false⟩,
    ⟨"LeftTriangleEqual", [0x22b4], false⟩, ⟨"LeftUpDownVector", [0x2951], false⟩,
    ⟨"LeftUpTeeVector", [0x2960], false⟩, ⟨"LeftUpVector", [0x21bf], false⟩,
    ⟨"LeftUpVectorBar", [0x2958], false⟩, ⟨"LeftVector", [0x21bc], false⟩,
    ⟨"LeftVectorBar", [0x2952], false⟩, ⟨"Leftarrow", [0x21d0], false⟩,
    ⟨"Leftrightarrow", [0x21d4], false⟩, ⟨"LessEqualGreater", [0x22da], false⟩,
    ⟨"LessFullEqual", [0x2266], false⟩, ⟨"LessGreater", [0x2276], false⟩,
    ⟨"LessLess", [0x2aa1], false⟩, ⟨"LessSlantEqual", [0x2a7d], false⟩,
    ⟨"LessTilde", [0x2272], false⟩, ⟨"Lfr", [0x1d50f], false⟩, ⟨"Ll", [0x22d8], false⟩,
    ⟨"Lleftarrow", [0x21da], false⟩, ⟨"Lmidot", [0x13f], false⟩,
    ⟨"LongLeftArrow", [0x27f5], false⟩, ⟨"LongLeftRightArrow", [0x27f7], false⟩,
    ⟨"LongRightArrow", [0x27f6], false⟩, ⟨"Longleftarrow", [0x27f8], false⟩,
    ⟨"Longleftrightarrow", [0x27fa], false⟩, ⟨"Longrightarrow", [0x27f9], false⟩,
    ⟨"Lopf", [0x1d543], false⟩, ⟨"LowerLeftArrow", [0x2199], false⟩,
    ⟨"LowerRightArrow", [0x2198], false⟩, ⟨"Lscr", [0x2112], false⟩, ⟨"Lsh", [0x21b0], false⟩,
    ⟨"Lstrok", [0x141], false⟩, ⟨"Lt", [0x226a], false⟩]

/-- The names that begin with capital M. -/
def capitalM : List Name :=
  [⟨"Map", [0x2905], false⟩, ⟨"Mcy", [0x41c], false⟩, ⟨"MediumSpace", [0x205f], false⟩,
    ⟨"Mellintrf", [0x2133], false⟩, ⟨"Mfr", [0x1d510], false⟩, ⟨"MinusPlus", [0x2213], false⟩,
    ⟨"Mopf", [0x1d544], false⟩, ⟨"Mscr", [0x2133], false⟩, ⟨"Mu", [0x39c], false⟩]

/-- The names that begin with capital N. -/
def capitalN : List Name :=
  [⟨"NJcy", [0x40a], false⟩, ⟨"Nacute", [0x143], false⟩, ⟨"Ncaron", [0x147], false⟩,
    ⟨"Ncedil", [0x145], false⟩, ⟨"Ncy", [0x41d], false⟩,
    ⟨"NegativeMediumSpace", [0x200b], false⟩, ⟨"NegativeThickSpace", [0x200b], false⟩,
    ⟨"NegativeThinSpace", [0x200b], false⟩, ⟨"NegativeVeryThinSpace", [0x200b], false⟩,
    ⟨"NestedGreaterGreater", [0x226b], false⟩, ⟨"NestedLessLess", [0x226a], false⟩,
    ⟨"NewLine", [0xa], false⟩, ⟨"Nfr", [0x1d511], false⟩, ⟨"NoBreak", [0x2060], false⟩,
    ⟨"NonBreakingSpace", [0xa0], false⟩, ⟨"Nopf", [0x2115], false⟩, ⟨"Not", [0x2aec], false⟩,
    ⟨"NotCongruent", [0x2262], false⟩, ⟨"NotCupCap", [0x226d], false⟩,
    ⟨"NotDoubleVerticalBar", [0x2226], false⟩, ⟨"NotElement", [0x2209], false⟩,
    ⟨"NotEqual", [0x2260], false⟩, ⟨"NotEqualTilde", [0x2242, 0x338], false⟩,
    ⟨"NotExists", [0x2204], false⟩, ⟨"NotGreater", [0x226f], false⟩,
    ⟨"NotGreaterEqual", [0x2271], false⟩, ⟨"NotGreaterFullEqual", [0x2267, 0x338], false⟩,
    ⟨"NotGreaterGreater", [0x226b, 0x338], false⟩, ⟨"NotGreaterLess", [0x2279], false⟩,
    ⟨"NotGreaterSlantEqual", [0x2a7e, 0x338], false⟩, ⟨"NotGreaterTilde", [0x2275], false⟩,
    ⟨"NotHumpDownHump", [0x224e, 0x338], false⟩, ⟨"NotHumpEqual", [0x224f, 0x338], false⟩,
    ⟨"NotLeftTriangle", [0x22ea], false⟩, ⟨"NotLeftTriangleBar", [0x29cf, 0x338], false⟩,
    ⟨"NotLeftTriangleEqual", [0x22ec], false⟩, ⟨"NotLess", [0x226e], false⟩,
    ⟨"NotLessEqual", [0x2270], false⟩, ⟨"NotLessGreater", [0x2278], false⟩,
    ⟨"NotLessLess", [0x226a, 0x338], false⟩, ⟨"NotLessSlantEqual", [0x2a7d, 0x338], false⟩,
    ⟨"NotLessTilde", [0x2274], false⟩, ⟨"NotNestedGreaterGreater", [0x2aa2, 0x338], false⟩,
    ⟨"NotNestedLessLess", [0x2aa1, 0x338], false⟩, ⟨"NotPrecedes", [0x2280], false⟩,
    ⟨"NotPrecedesEqual", [0x2aaf, 0x338], false⟩, ⟨"NotPrecedesSlantEqual", [0x22e0], false⟩,
    ⟨"NotReverseElement", [0x220c], false⟩, ⟨"NotRightTriangle", [0x22eb], false⟩,
    ⟨"NotRightTriangleBar", [0x29d0, 0x338], false⟩, ⟨"NotRightTriangleEqual", [0x22ed], false⟩,
    ⟨"NotSquareSubset", [0x228f, 0x338], false⟩, ⟨"NotSquareSubsetEqual", [0x22e2], false⟩,
    ⟨"NotSquareSuperset", [0x2290, 0x338], false⟩, ⟨"NotSquareSupersetEqual", [0x22e3], false⟩,
    ⟨"NotSubset", [0x2282, 0x20d2], false⟩, ⟨"NotSubsetEqual", [0x2288], false⟩,
    ⟨"NotSucceeds", [0x2281], false⟩, ⟨"NotSucceedsEqual", [0x2ab0, 0x338], false⟩,
    ⟨"NotSucceedsSlantEqual", [0x22e1], false⟩, ⟨"NotSucceedsTilde", [0x227f, 0x338], false⟩,
    ⟨"NotSuperset", [0x2283, 0x20d2], false⟩, ⟨"NotSupersetEqual", [0x2289], false⟩,
    ⟨"NotTilde", [0x2241], false⟩, ⟨"NotTildeEqual", [0x2244], false⟩,
    ⟨"NotTildeFullEqual", [0x2247], false⟩, ⟨"NotTildeTilde", [0x2249], false⟩,
    ⟨"NotVerticalBar", [0x2224], false⟩, ⟨"Nscr", [0x1d4a9], false⟩, ⟨"Ntilde", [0xd1], true⟩,
    ⟨"Nu", [0x39d], false⟩]

/-- The names that begin with capital O. -/
def capitalO : List Name :=
  [⟨"OElig", [0x152], false⟩, ⟨"Oacute", [0xd3], true⟩, ⟨"Ocirc", [0xd4], true⟩,
    ⟨"Ocy", [0x41e], false⟩, ⟨"Odblac", [0x150], false⟩, ⟨"Ofr", [0x1d512], false⟩,
    ⟨"Ograve", [0xd2], true⟩, ⟨"Omacr", [0x14c], false⟩, ⟨"Omega", [0x3a9], false⟩,
    ⟨"Omicron", [0x39f], false⟩, ⟨"Oopf", [0x1d546], false⟩,
    ⟨"OpenCurlyDoubleQuote", [0x201c], false⟩, ⟨"OpenCurlyQuote", [0x2018], false⟩,
    ⟨"Or", [0x2a54], false⟩, ⟨"Oscr", [0x1d4aa], false⟩, ⟨"Oslash", [0xd8], true⟩,
    ⟨"Otilde", [0xd5], true⟩, ⟨"Otimes", [0x2a37], false⟩, ⟨"Ouml", [0xd6], true⟩,
    ⟨"OverBar", [0x203e], false⟩, ⟨"OverBrace", [0x23de], false⟩,
    ⟨"OverBracket", [0x23b4], false⟩, ⟨"OverParenthesis", [0x23dc], false⟩]

/-- The names that begin with capital P. -/
def capitalP : List Name :=
  [⟨"PartialD", [0x2202], false⟩, ⟨"Pcy", [0x41f], false⟩, ⟨"Pfr", [0x1d513], false⟩,
    ⟨"Phi", [0x3a6], false⟩, ⟨"Pi", [0x3a0], false⟩, ⟨"PlusMinus", [0xb1], false⟩,
    ⟨"Poincareplane", [0x210c], false⟩, ⟨"Popf", [0x2119], false⟩, ⟨"Pr", [0x2abb], false⟩,
    ⟨"Precedes", [0x227a], false⟩, ⟨"PrecedesEqual", [0x2aaf], false⟩,
    ⟨"PrecedesSlantEqual", [0x227c], false⟩, ⟨"PrecedesTilde", [0x227e], false⟩,
    ⟨"Prime", [0x2033], false⟩, ⟨"Product", [0x220f], false⟩, ⟨"Proportion", [0x2237], false⟩,
    ⟨"Proportional", [0x221d], false⟩, ⟨"Pscr", [0x1d4ab], false⟩, ⟨"Psi", [0x3a8], false⟩]

/-- The names that begin with capital Q. -/
def capitalQ : List Name :=
  [⟨"QUOT", [0x22], true⟩, ⟨"Qfr", [0x1d514], false⟩, ⟨"Qopf", [0x211a], false⟩,
    ⟨"Qscr", [0x1d4ac], false⟩]

/-- The names that begin with capital R. -/
def capitalR : List Name :=
  [⟨"RBarr", [0x2910], false⟩, ⟨"REG", [0xae], true⟩, ⟨"Racute", [0x154], false⟩,
    ⟨"Rang", [0x27eb], false⟩, ⟨"Rarr", [0x21a0], false⟩, ⟨"Rarrtl", [0x2916], false⟩,
    ⟨"Rcaron", [0x158], false⟩, ⟨"Rcedil", [0x156], false⟩, ⟨"Rcy", [0x420], false⟩,
    ⟨"Re", [0x211c], false⟩, ⟨"ReverseElement", [0x220b], false⟩,
    ⟨"ReverseEquilibrium", [0x21cb], false⟩, ⟨"ReverseUpEquilibrium", [0x296f], false⟩,
    ⟨"Rfr", [0x211c], false⟩, ⟨"Rho", [0x3a1], false⟩, ⟨"RightAngleBracket", [0x27e9], false⟩,
    ⟨"RightArrow", [0x2192], false⟩, ⟨"RightArrowBar", [0x21e5], false⟩,
    ⟨"RightArrowLeftArrow", [0x21c4], false⟩, ⟨"RightCeiling", [0x2309], false⟩,
    ⟨"RightDoubleBracket", [0x27e7], false⟩, ⟨"RightDownTeeVector", [0x295d], false⟩,
    ⟨"RightDownVector", [0x21c2], false⟩, ⟨"RightDownVectorBar", [0x2955], false⟩,
    ⟨"RightFloor", [0x230b], false⟩, ⟨"RightTee", [0x22a2], false⟩,
    ⟨"RightTeeArrow", [0x21a6], false⟩, ⟨"RightTeeVector", [0x295b], false⟩,
    ⟨"RightTriangle", [0x22b3], false⟩, ⟨"RightTriangleBar", [0x29d0], false⟩,
    ⟨"RightTriangleEqual", [0x22b5], false⟩, ⟨"RightUpDownVector", [0x294f], false⟩,
    ⟨"RightUpTeeVector", [0x295c], false⟩, ⟨"RightUpVector", [0x21be], false⟩,
    ⟨"RightUpVectorBar", [0x2954], false⟩, ⟨"RightVector", [0x21c0], false⟩,
    ⟨"RightVectorBar", [0x2953], false⟩, ⟨"Rightarrow", [0x21d2], false⟩,
    ⟨"Ropf", [0x211d], false⟩, ⟨"RoundImplies", [0x2970], false⟩,
    ⟨"Rrightarrow", [0x21db], false⟩, ⟨"Rscr", [0x211b], false⟩, ⟨"Rsh", [0x21b1], false⟩,
    ⟨"RuleDelayed", [0x29f4], false⟩]

/-- The names that begin with capital S. -/
def capitalS : List Name :=
  [⟨"SHCHcy", [0x429], false⟩, ⟨"SHcy", [0x428], false⟩, ⟨"SOFTcy", [0x42c], false⟩,
    ⟨"Sacute", [0x15a], false⟩, ⟨"Sc", [0x2abc], false⟩, ⟨"Scaron", [0x160], false⟩,
    ⟨"Scedil", [0x15e], false⟩, ⟨"Scirc", [0x15c], false⟩, ⟨"Scy", [0x421], false⟩,
    ⟨"Sfr", [0x1d516], false⟩, ⟨"ShortDownArrow", [0x2193], false⟩,
    ⟨"ShortLeftArrow", [0x2190], false⟩, ⟨"ShortRightArrow", [0x2192], false⟩,
    ⟨"ShortUpArrow", [0x2191], false⟩, ⟨"Sigma", [0x3a3], false⟩,
    ⟨"SmallCircle", [0x2218], false⟩, ⟨"Sopf", [0x1d54a], false⟩, ⟨"Sqrt", [0x221a], false⟩,
    ⟨"Square", [0x25a1], false⟩, ⟨"SquareIntersection", [0x2293], false⟩,
    ⟨"SquareSubset", [0x228f], false⟩, ⟨"SquareSubsetEqual", [0x2291], false⟩,
    ⟨"SquareSuperset", [0x2290], false⟩, ⟨"SquareSupersetEqual", [0x2292], false⟩,
    ⟨"SquareUnion", [0x2294], false⟩, ⟨"Sscr", [0x1d4ae], false⟩, ⟨"Star", [0x22c6], false⟩,
    ⟨"Sub", [0x22d0], false⟩, ⟨"Subset", [0x22d0], false⟩, ⟨"SubsetEqual", [0x2286], false⟩,
    ⟨"Succeeds", [0x227b], false⟩, ⟨"SucceedsEqual", [0x2ab0], false⟩,
    ⟨"SucceedsSlantEqual", [0x227d], false⟩, ⟨"SucceedsTilde", [0x227f], false⟩,
    ⟨"SuchThat", [0x220b], false⟩, ⟨"Sum", [0x2211], false⟩, ⟨"Sup", [0x22d1], false⟩,
    ⟨"Superset", [0x2283], false⟩, ⟨"SupersetEqual", [0x2287], false⟩,
    ⟨"Supset", [0x22d1], false⟩]

/-- The names that begin with capital T. -/
def capitalT : List Name :=
  [⟨"THORN", [0xde], true⟩, ⟨"TRADE", [0x2122], false⟩, ⟨"TSHcy", [0x40b], false⟩,
    ⟨"TScy", [0x426], false⟩, ⟨"Tab", [0x9], false⟩, ⟨"Tau", [0x3a4], false⟩,
    ⟨"Tcaron", [0x164], false⟩, ⟨"Tcedil", [0x162], false⟩, ⟨"Tcy", [0x422], false⟩,
    ⟨"Tfr", [0x1d517], false⟩, ⟨"Therefore", [0x2234], false⟩, ⟨"Theta", [0x398], false⟩,
    ⟨"ThickSpace", [0x205f, 0x200a], false⟩, ⟨"ThinSpace", [0x2009], false⟩,
    ⟨"Tilde", [0x223c], false⟩, ⟨"TildeEqual", [0x2243], false⟩,
    ⟨"TildeFullEqual", [0x2245], false⟩, ⟨"TildeTilde", [0x2248], false⟩,
    ⟨"Topf", [0x1d54b], false⟩, ⟨"TripleDot", [0x20db], false⟩, ⟨"Tscr", [0x1d4af], false⟩,
    ⟨"Tstrok", [0x166], false⟩]

/-- The names that begin with capital U. -/
def capitalU : List Name :=
  [⟨"Uacute", [0xda], true⟩, ⟨"Uarr", [0x219f], false⟩, ⟨"Uarrocir", [0x2949], false⟩,
    ⟨"Ubrcy", [0x40e], false⟩, ⟨"Ubreve", [0x16c], false⟩, ⟨"Ucirc", [0xdb], true⟩,
    ⟨"Ucy", [0x423], false⟩, ⟨"Udblac", [0x170], false⟩, ⟨"Ufr", [0x1d518], false⟩,
    ⟨"Ugrave", [0xd9], true⟩, ⟨"Umacr", [0x16a], false⟩, ⟨"UnderBar", [0x5f], false⟩,
    ⟨"UnderBrace", [0x23df], false⟩, ⟨"UnderBracket", [0x23b5], false⟩,
    ⟨"UnderParenthesis", [0x23dd], false⟩, ⟨"Union", [0x22c3], false⟩,
    ⟨"UnionPlus", [0x228e], false⟩, ⟨"Uogon", [0x172], false⟩, ⟨"Uopf", [0x1d54c], false⟩,
    ⟨"UpArrow", [0x2191], false⟩, ⟨"UpArrowBar", [0x2912], false⟩,
    ⟨"UpArrowDownArrow", [0x21c5], false⟩, ⟨"UpDownArrow", [0x2195], false⟩,
    ⟨"UpEquilibrium", [0x296e], false⟩, ⟨"UpTee", [0x22a5], false⟩,
    ⟨"UpTeeArrow", [0x21a5], false⟩, ⟨"Uparrow", [0x21d1], false⟩,
    ⟨"Updownarrow", [0x21d5], false⟩, ⟨"UpperLeftArrow", [0x2196], false⟩,
    ⟨"UpperRightArrow", [0x2197], false⟩, ⟨"Upsi", [0x3d2], false⟩, ⟨"Upsilon", [0x3a5], false⟩,
    ⟨"Uring", [0x16e], false⟩, ⟨"Uscr", [0x1d4b0], false⟩, ⟨"Utilde", [0x168], false⟩,
    ⟨"Uuml", [0xdc], true⟩]

/-- The names that begin with capital V. -/
def capitalV : List Name :=
  [⟨"VDash", [0x22ab], false⟩, ⟨"Vbar", [0x2aeb], false⟩, ⟨"Vcy", [0x412], false⟩,
    ⟨"Vdash", [0x22a9], false⟩, ⟨"Vdashl", [0x2ae6], false⟩, ⟨"Vee", [0x22c1], false⟩,
    ⟨"Verbar", [0x2016], false⟩, ⟨"Vert", [0x2016], false⟩, ⟨"VerticalBar", [0x2223], false⟩,
    ⟨"VerticalLine", [0x7c], false⟩, ⟨"VerticalSeparator", [0x2758], false⟩,
    ⟨"VerticalTilde", [0x2240], false⟩, ⟨"VeryThinSpace", [0x200a], false⟩,
    ⟨"Vfr", [0x1d519], false⟩, ⟨"Vopf", [0x1d54d], false⟩, ⟨"Vscr", [0x1d4b1], false⟩,
    ⟨"Vvdash", [0x22aa], false⟩]

/-- The names that begin with capital W. -/
def capitalW : List Name :=
  [⟨"Wcirc", [0x174], false⟩, ⟨"Wedge", [0x22c0], false⟩, ⟨"Wfr", [0x1d51a], false⟩,
    ⟨"Wopf", [0x1d54e], false⟩, ⟨"Wscr", [0x1d4b2], false⟩]

/-- The names that begin with capital X. -/
def capitalX : List Name :=
  [⟨"Xfr", [0x1d51b], false⟩, ⟨"Xi", [0x39e], false⟩, ⟨"Xopf", [0x1d54f], false⟩,
    ⟨"Xscr", [0x1d4b3], false⟩]

/-- The names that begin with capital Y. -/
def capitalY : List Name :=
  [⟨"YAcy", [0x42f], false⟩, ⟨"YIcy", [0x407], false⟩, ⟨"YUcy", [0x42e], false⟩,
    ⟨"Yacute", [0xdd], true⟩, ⟨"Ycirc", [0x176], false⟩, ⟨"Ycy", [0x42b], false⟩,
    ⟨"Yfr", [0x1d51c], false⟩, ⟨"Yopf", [0x1d550], false⟩, ⟨"Yscr", [0x1d4b4], false⟩,
    ⟨"Yuml", [0x178], false⟩]

/-- The names that begin with capital Z. -/
def capitalZ : List Name :=
  [⟨"ZHcy", [0x416], false⟩, ⟨"Zacute", [0x179], false⟩, ⟨"Zcaron", [0x17d], false⟩,
    ⟨"Zcy", [0x417], false⟩, ⟨"Zdot", [0x17b], false⟩, ⟨"ZeroWidthSpace", [0x200b], false⟩,
    ⟨"Zeta", [0x396], false⟩, ⟨"Zfr", [0x2128], false⟩, ⟨"Zopf", [0x2124], false⟩,
    ⟨"Zscr", [0x1d4b5], false⟩]

end TaggedMarkup.Text.CharacterReference
