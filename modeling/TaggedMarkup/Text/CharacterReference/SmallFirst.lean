import TaggedMarkup.Text.CharacterReference.Basic

/-! The named character references that begin with a small letter from A to M. -/

namespace TaggedMarkup.Text.CharacterReference

/-- The names that begin with small A. -/
def smallA : List Name :=
  [⟨"aacute", [0xe1], true⟩, ⟨"abreve", [0x103], false⟩, ⟨"ac", [0x223e], false⟩,
    ⟨"acE", [0x223e, 0x333], false⟩, ⟨"acd", [0x223f], false⟩, ⟨"acirc", [0xe2], true⟩,
    ⟨"acute", [0xb4], true⟩, ⟨"acy", [0x430], false⟩, ⟨"aelig", [0xe6], true⟩,
    ⟨"af", [0x2061], false⟩, ⟨"afr", [0x1d51e], false⟩, ⟨"agrave", [0xe0], true⟩,
    ⟨"alefsym", [0x2135], false⟩, ⟨"aleph", [0x2135], false⟩, ⟨"alpha", [0x3b1], false⟩,
    ⟨"amacr", [0x101], false⟩, ⟨"amalg", [0x2a3f], false⟩, ⟨"amp", [0x26], true⟩,
    ⟨"and", [0x2227], false⟩, ⟨"andand", [0x2a55], false⟩, ⟨"andd", [0x2a5c], false⟩,
    ⟨"andslope", [0x2a58], false⟩, ⟨"andv", [0x2a5a], false⟩, ⟨"ang", [0x2220], false⟩,
    ⟨"ange", [0x29a4], false⟩, ⟨"angle", [0x2220], false⟩, ⟨"angmsd", [0x2221], false⟩,
    ⟨"angmsdaa", [0x29a8], false⟩, ⟨"angmsdab", [0x29a9], false⟩, ⟨"angmsdac", [0x29aa], false⟩,
    ⟨"angmsdad", [0x29ab], false⟩, ⟨"angmsdae", [0x29ac], false⟩, ⟨"angmsdaf", [0x29ad], false⟩,
    ⟨"angmsdag", [0x29ae], false⟩, ⟨"angmsdah", [0x29af], false⟩, ⟨"angrt", [0x221f], false⟩,
    ⟨"angrtvb", [0x22be], false⟩, ⟨"angrtvbd", [0x299d], false⟩, ⟨"angsph", [0x2222], false⟩,
    ⟨"angst", [0xc5], false⟩, ⟨"angzarr", [0x237c], false⟩, ⟨"aogon", [0x105], false⟩,
    ⟨"aopf", [0x1d552], false⟩, ⟨"ap", [0x2248], false⟩, ⟨"apE", [0x2a70], false⟩,
    ⟨"apacir", [0x2a6f], false⟩, ⟨"ape", [0x224a], false⟩, ⟨"apid", [0x224b], false⟩,
    ⟨"apos", [0x27], false⟩, ⟨"approx", [0x2248], false⟩, ⟨"approxeq", [0x224a], false⟩,
    ⟨"aring", [0xe5], true⟩, ⟨"ascr", [0x1d4b6], false⟩, ⟨"ast", [0x2a], false⟩,
    ⟨"asymp", [0x2248], false⟩, ⟨"asympeq", [0x224d], false⟩, ⟨"atilde", [0xe3], true⟩,
    ⟨"auml", [0xe4], true⟩, ⟨"awconint", [0x2233], false⟩, ⟨"awint", [0x2a11], false⟩]

/-- The names that begin with small B. -/
def smallB : List Name :=
  [⟨"bNot", [0x2aed], false⟩, ⟨"backcong", [0x224c], false⟩, ⟨"backepsilon", [0x3f6], false⟩,
    ⟨"backprime", [0x2035], false⟩, ⟨"backsim", [0x223d], false⟩,
    ⟨"backsimeq", [0x22cd], false⟩, ⟨"barvee", [0x22bd], false⟩, ⟨"barwed", [0x2305], false⟩,
    ⟨"barwedge", [0x2305], false⟩, ⟨"bbrk", [0x23b5], false⟩, ⟨"bbrktbrk", [0x23b6], false⟩,
    ⟨"bcong", [0x224c], false⟩, ⟨"bcy", [0x431], false⟩, ⟨"bdquo", [0x201e], false⟩,
    ⟨"becaus", [0x2235], false⟩, ⟨"because", [0x2235], false⟩, ⟨"bemptyv", [0x29b0], false⟩,
    ⟨"bepsi", [0x3f6], false⟩, ⟨"bernou", [0x212c], false⟩, ⟨"beta", [0x3b2], false⟩,
    ⟨"beth", [0x2136], false⟩, ⟨"between", [0x226c], false⟩, ⟨"bfr", [0x1d51f], false⟩,
    ⟨"bigcap", [0x22c2], false⟩, ⟨"bigcirc", [0x25ef], false⟩, ⟨"bigcup", [0x22c3], false⟩,
    ⟨"bigodot", [0x2a00], false⟩, ⟨"bigoplus", [0x2a01], false⟩, ⟨"bigotimes", [0x2a02], false⟩,
    ⟨"bigsqcup", [0x2a06], false⟩, ⟨"bigstar", [0x2605], false⟩,
    ⟨"bigtriangledown", [0x25bd], false⟩, ⟨"bigtriangleup", [0x25b3], false⟩,
    ⟨"biguplus", [0x2a04], false⟩, ⟨"bigvee", [0x22c1], false⟩, ⟨"bigwedge", [0x22c0], false⟩,
    ⟨"bkarow", [0x290d], false⟩, ⟨"blacklozenge", [0x29eb], false⟩,
    ⟨"blacksquare", [0x25aa], false⟩, ⟨"blacktriangle", [0x25b4], false⟩,
    ⟨"blacktriangledown", [0x25be], false⟩, ⟨"blacktriangleleft", [0x25c2], false⟩,
    ⟨"blacktriangleright", [0x25b8], false⟩, ⟨"blank", [0x2423], false⟩,
    ⟨"blk12", [0x2592], false⟩, ⟨"blk14", [0x2591], false⟩, ⟨"blk34", [0x2593], false⟩,
    ⟨"block", [0x2588], false⟩, ⟨"bne", [0x3d, 0x20e5], false⟩,
    ⟨"bnequiv", [0x2261, 0x20e5], false⟩, ⟨"bnot", [0x2310], false⟩, ⟨"bopf", [0x1d553], false⟩,
    ⟨"bot", [0x22a5], false⟩, ⟨"bottom", [0x22a5], false⟩, ⟨"bowtie", [0x22c8], false⟩,
    ⟨"boxDL", [0x2557], false⟩, ⟨"boxDR", [0x2554], false⟩, ⟨"boxDl", [0x2556], false⟩,
    ⟨"boxDr", [0x2553], false⟩, ⟨"boxH", [0x2550], false⟩, ⟨"boxHD", [0x2566], false⟩,
    ⟨"boxHU", [0x2569], false⟩, ⟨"boxHd", [0x2564], false⟩, ⟨"boxHu", [0x2567], false⟩,
    ⟨"boxUL", [0x255d], false⟩, ⟨"boxUR", [0x255a], false⟩, ⟨"boxUl", [0x255c], false⟩,
    ⟨"boxUr", [0x2559], false⟩, ⟨"boxV", [0x2551], false⟩, ⟨"boxVH", [0x256c], false⟩,
    ⟨"boxVL", [0x2563], false⟩, ⟨"boxVR", [0x2560], false⟩, ⟨"boxVh", [0x256b], false⟩,
    ⟨"boxVl", [0x2562], false⟩, ⟨"boxVr", [0x255f], false⟩, ⟨"boxbox", [0x29c9], false⟩,
    ⟨"boxdL", [0x2555], false⟩, ⟨"boxdR", [0x2552], false⟩, ⟨"boxdl", [0x2510], false⟩,
    ⟨"boxdr", [0x250c], false⟩, ⟨"boxh", [0x2500], false⟩, ⟨"boxhD", [0x2565], false⟩,
    ⟨"boxhU", [0x2568], false⟩, ⟨"boxhd", [0x252c], false⟩, ⟨"boxhu", [0x2534], false⟩,
    ⟨"boxminus", [0x229f], false⟩, ⟨"boxplus", [0x229e], false⟩, ⟨"boxtimes", [0x22a0], false⟩,
    ⟨"boxuL", [0x255b], false⟩, ⟨"boxuR", [0x2558], false⟩, ⟨"boxul", [0x2518], false⟩,
    ⟨"boxur", [0x2514], false⟩, ⟨"boxv", [0x2502], false⟩, ⟨"boxvH", [0x256a], false⟩,
    ⟨"boxvL", [0x2561], false⟩, ⟨"boxvR", [0x255e], false⟩, ⟨"boxvh", [0x253c], false⟩,
    ⟨"boxvl", [0x2524], false⟩, ⟨"boxvr", [0x251c], false⟩, ⟨"bprime", [0x2035], false⟩,
    ⟨"breve", [0x2d8], false⟩, ⟨"brvbar", [0xa6], true⟩, ⟨"bscr", [0x1d4b7], false⟩,
    ⟨"bsemi", [0x204f], false⟩, ⟨"bsim", [0x223d], false⟩, ⟨"bsime", [0x22cd], false⟩,
    ⟨"bsol", [0x5c], false⟩, ⟨"bsolb", [0x29c5], false⟩, ⟨"bsolhsub", [0x27c8], false⟩,
    ⟨"bull", [0x2022], false⟩, ⟨"bullet", [0x2022], false⟩, ⟨"bump", [0x224e], false⟩,
    ⟨"bumpE", [0x2aae], false⟩, ⟨"bumpe", [0x224f], false⟩, ⟨"bumpeq", [0x224f], false⟩]

/-- The names that begin with small C. -/
def smallC : List Name :=
  [⟨"cacute", [0x107], false⟩, ⟨"cap", [0x2229], false⟩, ⟨"capand", [0x2a44], false⟩,
    ⟨"capbrcup", [0x2a49], false⟩, ⟨"capcap", [0x2a4b], false⟩, ⟨"capcup", [0x2a47], false⟩,
    ⟨"capdot", [0x2a40], false⟩, ⟨"caps", [0x2229, 0xfe00], false⟩, ⟨"caret", [0x2041], false⟩,
    ⟨"caron", [0x2c7], false⟩, ⟨"ccaps", [0x2a4d], false⟩, ⟨"ccaron", [0x10d], false⟩,
    ⟨"ccedil", [0xe7], true⟩, ⟨"ccirc", [0x109], false⟩, ⟨"ccups", [0x2a4c], false⟩,
    ⟨"ccupssm", [0x2a50], false⟩, ⟨"cdot", [0x10b], false⟩, ⟨"cedil", [0xb8], true⟩,
    ⟨"cemptyv", [0x29b2], false⟩, ⟨"cent", [0xa2], true⟩, ⟨"centerdot", [0xb7], false⟩,
    ⟨"cfr", [0x1d520], false⟩, ⟨"chcy", [0x447], false⟩, ⟨"check", [0x2713], false⟩,
    ⟨"checkmark", [0x2713], false⟩, ⟨"chi", [0x3c7], false⟩, ⟨"cir", [0x25cb], false⟩,
    ⟨"cirE", [0x29c3], false⟩, ⟨"circ", [0x2c6], false⟩, ⟨"circeq", [0x2257], false⟩,
    ⟨"circlearrowleft", [0x21ba], false⟩, ⟨"circlearrowright", [0x21bb], false⟩,
    ⟨"circledR", [0xae], false⟩, ⟨"circledS", [0x24c8], false⟩, ⟨"circledast", [0x229b], false⟩,
    ⟨"circledcirc", [0x229a], false⟩, ⟨"circleddash", [0x229d], false⟩,
    ⟨"cire", [0x2257], false⟩, ⟨"cirfnint", [0x2a10], false⟩, ⟨"cirmid", [0x2aef], false⟩,
    ⟨"cirscir", [0x29c2], false⟩, ⟨"clubs", [0x2663], false⟩, ⟨"clubsuit", [0x2663], false⟩,
    ⟨"colon", [0x3a], false⟩, ⟨"colone", [0x2254], false⟩, ⟨"coloneq", [0x2254], false⟩,
    ⟨"comma", [0x2c], false⟩, ⟨"commat", [0x40], false⟩, ⟨"comp", [0x2201], false⟩,
    ⟨"compfn", [0x2218], false⟩, ⟨"complement", [0x2201], false⟩,
    ⟨"complexes", [0x2102], false⟩, ⟨"cong", [0x2245], false⟩, ⟨"congdot", [0x2a6d], false⟩,
    ⟨"conint", [0x222e], false⟩, ⟨"copf", [0x1d554], false⟩, ⟨"coprod", [0x2210], false⟩,
    ⟨"copy", [0xa9], true⟩, ⟨"copysr", [0x2117], false⟩, ⟨"crarr", [0x21b5], false⟩,
    ⟨"cross", [0x2717], false⟩, ⟨"cscr", [0x1d4b8], false⟩, ⟨"csub", [0x2acf], false⟩,
    ⟨"csube", [0x2ad1], false⟩, ⟨"csup", [0x2ad0], false⟩, ⟨"csupe", [0x2ad2], false⟩,
    ⟨"ctdot", [0x22ef], false⟩, ⟨"cudarrl", [0x2938], false⟩, ⟨"cudarrr", [0x2935], false⟩,
    ⟨"cuepr", [0x22de], false⟩, ⟨"cuesc", [0x22df], false⟩, ⟨"cularr", [0x21b6], false⟩,
    ⟨"cularrp", [0x293d], false⟩, ⟨"cup", [0x222a], false⟩, ⟨"cupbrcap", [0x2a48], false⟩,
    ⟨"cupcap", [0x2a46], false⟩, ⟨"cupcup", [0x2a4a], false⟩, ⟨"cupdot", [0x228d], false⟩,
    ⟨"cupor", [0x2a45], false⟩, ⟨"cups", [0x222a, 0xfe00], false⟩, ⟨"curarr", [0x21b7], false⟩,
    ⟨"curarrm", [0x293c], false⟩, ⟨"curlyeqprec", [0x22de], false⟩,
    ⟨"curlyeqsucc", [0x22df], false⟩, ⟨"curlyvee", [0x22ce], false⟩,
    ⟨"curlywedge", [0x22cf], false⟩, ⟨"curren", [0xa4], true⟩,
    ⟨"curvearrowleft", [0x21b6], false⟩, ⟨"curvearrowright", [0x21b7], false⟩,
    ⟨"cuvee", [0x22ce], false⟩, ⟨"cuwed", [0x22cf], false⟩, ⟨"cwconint", [0x2232], false⟩,
    ⟨"cwint", [0x2231], false⟩, ⟨"cylcty", [0x232d], false⟩]

/-- The names that begin with small D. -/
def smallD : List Name :=
  [⟨"dArr", [0x21d3], false⟩, ⟨"dHar", [0x2965], false⟩, ⟨"dagger", [0x2020], false⟩,
    ⟨"daleth", [0x2138], false⟩, ⟨"darr", [0x2193], false⟩, ⟨"dash", [0x2010], false⟩,
    ⟨"dashv", [0x22a3], false⟩, ⟨"dbkarow", [0x290f], false⟩, ⟨"dblac", [0x2dd], false⟩,
    ⟨"dcaron", [0x10f], false⟩, ⟨"dcy", [0x434], false⟩, ⟨"dd", [0x2146], false⟩,
    ⟨"ddagger", [0x2021], false⟩, ⟨"ddarr", [0x21ca], false⟩, ⟨"ddotseq", [0x2a77], false⟩,
    ⟨"deg", [0xb0], true⟩, ⟨"delta", [0x3b4], false⟩, ⟨"demptyv", [0x29b1], false⟩,
    ⟨"dfisht", [0x297f], false⟩, ⟨"dfr", [0x1d521], false⟩, ⟨"dharl", [0x21c3], false⟩,
    ⟨"dharr", [0x21c2], false⟩, ⟨"diam", [0x22c4], false⟩, ⟨"diamond", [0x22c4], false⟩,
    ⟨"diamondsuit", [0x2666], false⟩, ⟨"diams", [0x2666], false⟩, ⟨"die", [0xa8], false⟩,
    ⟨"digamma", [0x3dd], false⟩, ⟨"disin", [0x22f2], false⟩, ⟨"div", [0xf7], false⟩,
    ⟨"divide", [0xf7], true⟩, ⟨"divideontimes", [0x22c7], false⟩, ⟨"divonx", [0x22c7], false⟩,
    ⟨"djcy", [0x452], false⟩, ⟨"dlcorn", [0x231e], false⟩, ⟨"dlcrop", [0x230d], false⟩,
    ⟨"dollar", [0x24], false⟩, ⟨"dopf", [0x1d555], false⟩, ⟨"dot", [0x2d9], false⟩,
    ⟨"doteq", [0x2250], false⟩, ⟨"doteqdot", [0x2251], false⟩, ⟨"dotminus", [0x2238], false⟩,
    ⟨"dotplus", [0x2214], false⟩, ⟨"dotsquare", [0x22a1], false⟩,
    ⟨"doublebarwedge", [0x2306], false⟩, ⟨"downarrow", [0x2193], false⟩,
    ⟨"downdownarrows", [0x21ca], false⟩, ⟨"downharpoonleft", [0x21c3], false⟩,
    ⟨"downharpoonright", [0x21c2], false⟩, ⟨"drbkarow", [0x2910], false⟩,
    ⟨"drcorn", [0x231f], false⟩, ⟨"drcrop", [0x230c], false⟩, ⟨"dscr", [0x1d4b9], false⟩,
    ⟨"dscy", [0x455], false⟩, ⟨"dsol", [0x29f6], false⟩, ⟨"dstrok", [0x111], false⟩,
    ⟨"dtdot", [0x22f1], false⟩, ⟨"dtri", [0x25bf], false⟩, ⟨"dtrif", [0x25be], false⟩,
    ⟨"duarr", [0x21f5], false⟩, ⟨"duhar", [0x296f], false⟩, ⟨"dwangle", [0x29a6], false⟩,
    ⟨"dzcy", [0x45f], false⟩, ⟨"dzigrarr", [0x27ff], false⟩]

/-- The names that begin with small E. -/
def smallE : List Name :=
  [⟨"eDDot", [0x2a77], false⟩, ⟨"eDot", [0x2251], false⟩, ⟨"eacute", [0xe9], true⟩,
    ⟨"easter", [0x2a6e], false⟩, ⟨"ecaron", [0x11b], false⟩, ⟨"ecir", [0x2256], false⟩,
    ⟨"ecirc", [0xea], true⟩, ⟨"ecolon", [0x2255], false⟩, ⟨"ecy", [0x44d], false⟩,
    ⟨"edot", [0x117], false⟩, ⟨"ee", [0x2147], false⟩, ⟨"efDot", [0x2252], false⟩,
    ⟨"efr", [0x1d522], false⟩, ⟨"eg", [0x2a9a], false⟩, ⟨"egrave", [0xe8], true⟩,
    ⟨"egs", [0x2a96], false⟩, ⟨"egsdot", [0x2a98], false⟩, ⟨"el", [0x2a99], false⟩,
    ⟨"elinters", [0x23e7], false⟩, ⟨"ell", [0x2113], false⟩, ⟨"els", [0x2a95], false⟩,
    ⟨"elsdot", [0x2a97], false⟩, ⟨"emacr", [0x113], false⟩, ⟨"empty", [0x2205], false⟩,
    ⟨"emptyset", [0x2205], false⟩, ⟨"emptyv", [0x2205], false⟩, ⟨"emsp", [0x2003], false⟩,
    ⟨"emsp13", [0x2004], false⟩, ⟨"emsp14", [0x2005], false⟩, ⟨"eng", [0x14b], false⟩,
    ⟨"ensp", [0x2002], false⟩, ⟨"eogon", [0x119], false⟩, ⟨"eopf", [0x1d556], false⟩,
    ⟨"epar", [0x22d5], false⟩, ⟨"eparsl", [0x29e3], false⟩, ⟨"eplus", [0x2a71], false⟩,
    ⟨"epsi", [0x3b5], false⟩, ⟨"epsilon", [0x3b5], false⟩, ⟨"epsiv", [0x3f5], false⟩,
    ⟨"eqcirc", [0x2256], false⟩, ⟨"eqcolon", [0x2255], false⟩, ⟨"eqsim", [0x2242], false⟩,
    ⟨"eqslantgtr", [0x2a96], false⟩, ⟨"eqslantless", [0x2a95], false⟩,
    ⟨"equals", [0x3d], false⟩, ⟨"equest", [0x225f], false⟩, ⟨"equiv", [0x2261], false⟩,
    ⟨"equivDD", [0x2a78], false⟩, ⟨"eqvparsl", [0x29e5], false⟩, ⟨"erDot", [0x2253], false⟩,
    ⟨"erarr", [0x2971], false⟩, ⟨"escr", [0x212f], false⟩, ⟨"esdot", [0x2250], false⟩,
    ⟨"esim", [0x2242], false⟩, ⟨"eta", [0x3b7], false⟩, ⟨"eth", [0xf0], true⟩,
    ⟨"euml", [0xeb], true⟩, ⟨"euro", [0x20ac], false⟩, ⟨"excl", [0x21], false⟩,
    ⟨"exist", [0x2203], false⟩, ⟨"expectation", [0x2130], false⟩,
    ⟨"exponentiale", [0x2147], false⟩]

/-- The names that begin with small F. -/
def smallF : List Name :=
  [⟨"fallingdotseq", [0x2252], false⟩, ⟨"fcy", [0x444], false⟩, ⟨"female", [0x2640], false⟩,
    ⟨"ffilig", [0xfb03], false⟩, ⟨"fflig", [0xfb00], false⟩, ⟨"ffllig", [0xfb04], false⟩,
    ⟨"ffr", [0x1d523], false⟩, ⟨"filig", [0xfb01], false⟩, ⟨"fjlig", [0x66, 0x6a], false⟩,
    ⟨"flat", [0x266d], false⟩, ⟨"fllig", [0xfb02], false⟩, ⟨"fltns", [0x25b1], false⟩,
    ⟨"fnof", [0x192], false⟩, ⟨"fopf", [0x1d557], false⟩, ⟨"forall", [0x2200], false⟩,
    ⟨"fork", [0x22d4], false⟩, ⟨"forkv", [0x2ad9], false⟩, ⟨"fpartint", [0x2a0d], false⟩,
    ⟨"frac12", [0xbd], true⟩, ⟨"frac13", [0x2153], false⟩, ⟨"frac14", [0xbc], true⟩,
    ⟨"frac15", [0x2155], false⟩, ⟨"frac16", [0x2159], false⟩, ⟨"frac18", [0x215b], false⟩,
    ⟨"frac23", [0x2154], false⟩, ⟨"frac25", [0x2156], false⟩, ⟨"frac34", [0xbe], true⟩,
    ⟨"frac35", [0x2157], false⟩, ⟨"frac38", [0x215c], false⟩, ⟨"frac45", [0x2158], false⟩,
    ⟨"frac56", [0x215a], false⟩, ⟨"frac58", [0x215d], false⟩, ⟨"frac78", [0x215e], false⟩,
    ⟨"frasl", [0x2044], false⟩, ⟨"frown", [0x2322], false⟩, ⟨"fscr", [0x1d4bb], false⟩]

/-- The names that begin with small G. -/
def smallG : List Name :=
  [⟨"gE", [0x2267], false⟩, ⟨"gEl", [0x2a8c], false⟩, ⟨"gacute", [0x1f5], false⟩,
    ⟨"gamma", [0x3b3], false⟩, ⟨"gammad", [0x3dd], false⟩, ⟨"gap", [0x2a86], false⟩,
    ⟨"gbreve", [0x11f], false⟩, ⟨"gcirc", [0x11d], false⟩, ⟨"gcy", [0x433], false⟩,
    ⟨"gdot", [0x121], false⟩, ⟨"ge", [0x2265], false⟩, ⟨"gel", [0x22db], false⟩,
    ⟨"geq", [0x2265], false⟩, ⟨"geqq", [0x2267], false⟩, ⟨"geqslant", [0x2a7e], false⟩,
    ⟨"ges", [0x2a7e], false⟩, ⟨"gescc", [0x2aa9], false⟩, ⟨"gesdot", [0x2a80], false⟩,
    ⟨"gesdoto", [0x2a82], false⟩, ⟨"gesdotol", [0x2a84], false⟩,
    ⟨"gesl", [0x22db, 0xfe00], false⟩, ⟨"gesles", [0x2a94], false⟩, ⟨"gfr", [0x1d524], false⟩,
    ⟨"gg", [0x226b], false⟩, ⟨"ggg", [0x22d9], false⟩, ⟨"gimel", [0x2137], false⟩,
    ⟨"gjcy", [0x453], false⟩, ⟨"gl", [0x2277], false⟩, ⟨"glE", [0x2a92], false⟩,
    ⟨"gla", [0x2aa5], false⟩, ⟨"glj", [0x2aa4], false⟩, ⟨"gnE", [0x2269], false⟩,
    ⟨"gnap", [0x2a8a], false⟩, ⟨"gnapprox", [0x2a8a], false⟩, ⟨"gne", [0x2a88], false⟩,
    ⟨"gneq", [0x2a88], false⟩, ⟨"gneqq", [0x2269], false⟩, ⟨"gnsim", [0x22e7], false⟩,
    ⟨"gopf", [0x1d558], false⟩, ⟨"grave", [0x60], false⟩, ⟨"gscr", [0x210a], false⟩,
    ⟨"gsim", [0x2273], false⟩, ⟨"gsime", [0x2a8e], false⟩, ⟨"gsiml", [0x2a90], false⟩,
    ⟨"gt", [0x3e], true⟩, ⟨"gtcc", [0x2aa7], false⟩, ⟨"gtcir", [0x2a7a], false⟩,
    ⟨"gtdot", [0x22d7], false⟩, ⟨"gtlPar", [0x2995], false⟩, ⟨"gtquest", [0x2a7c], false⟩,
    ⟨"gtrapprox", [0x2a86], false⟩, ⟨"gtrarr", [0x2978], false⟩, ⟨"gtrdot", [0x22d7], false⟩,
    ⟨"gtreqless", [0x22db], false⟩, ⟨"gtreqqless", [0x2a8c], false⟩,
    ⟨"gtrless", [0x2277], false⟩, ⟨"gtrsim", [0x2273], false⟩,
    ⟨"gvertneqq", [0x2269, 0xfe00], false⟩, ⟨"gvnE", [0x2269, 0xfe00], false⟩]

/-- The names that begin with small H. -/
def smallH : List Name :=
  [⟨"hArr", [0x21d4], false⟩, ⟨"hairsp", [0x200a], false⟩, ⟨"half", [0xbd], false⟩,
    ⟨"hamilt", [0x210b], false⟩, ⟨"hardcy", [0x44a], false⟩, ⟨"harr", [0x2194], false⟩,
    ⟨"harrcir", [0x2948], false⟩, ⟨"harrw", [0x21ad], false⟩, ⟨"hbar", [0x210f], false⟩,
    ⟨"hcirc", [0x125], false⟩, ⟨"hearts", [0x2665], false⟩, ⟨"heartsuit", [0x2665], false⟩,
    ⟨"hellip", [0x2026], false⟩, ⟨"hercon", [0x22b9], false⟩, ⟨"hfr", [0x1d525], false⟩,
    ⟨"hksearow", [0x2925], false⟩, ⟨"hkswarow", [0x2926], false⟩, ⟨"hoarr", [0x21ff], false⟩,
    ⟨"homtht", [0x223b], false⟩, ⟨"hookleftarrow", [0x21a9], false⟩,
    ⟨"hookrightarrow", [0x21aa], false⟩, ⟨"hopf", [0x1d559], false⟩,
    ⟨"horbar", [0x2015], false⟩, ⟨"hscr", [0x1d4bd], false⟩, ⟨"hslash", [0x210f], false⟩,
    ⟨"hstrok", [0x127], false⟩, ⟨"hybull", [0x2043], false⟩, ⟨"hyphen", [0x2010], false⟩]

/-- The names that begin with small I. -/
def smallI : List Name :=
  [⟨"iacute", [0xed], true⟩, ⟨"ic", [0x2063], false⟩, ⟨"icirc", [0xee], true⟩,
    ⟨"icy", [0x438], false⟩, ⟨"iecy", [0x435], false⟩, ⟨"iexcl", [0xa1], true⟩,
    ⟨"iff", [0x21d4], false⟩, ⟨"ifr", [0x1d526], false⟩, ⟨"igrave", [0xec], true⟩,
    ⟨"ii", [0x2148], false⟩, ⟨"iiiint", [0x2a0c], false⟩, ⟨"iiint", [0x222d], false⟩,
    ⟨"iinfin", [0x29dc], false⟩, ⟨"iiota", [0x2129], false⟩, ⟨"ijlig", [0x133], false⟩,
    ⟨"imacr", [0x12b], false⟩, ⟨"image", [0x2111], false⟩, ⟨"imagline", [0x2110], false⟩,
    ⟨"imagpart", [0x2111], false⟩, ⟨"imath", [0x131], false⟩, ⟨"imof", [0x22b7], false⟩,
    ⟨"imped", [0x1b5], false⟩, ⟨"in", [0x2208], false⟩, ⟨"incare", [0x2105], false⟩,
    ⟨"infin", [0x221e], false⟩, ⟨"infintie", [0x29dd], false⟩, ⟨"inodot", [0x131], false⟩,
    ⟨"int", [0x222b], false⟩, ⟨"intcal", [0x22ba], false⟩, ⟨"integers", [0x2124], false⟩,
    ⟨"intercal", [0x22ba], false⟩, ⟨"intlarhk", [0x2a17], false⟩, ⟨"intprod", [0x2a3c], false⟩,
    ⟨"iocy", [0x451], false⟩, ⟨"iogon", [0x12f], false⟩, ⟨"iopf", [0x1d55a], false⟩,
    ⟨"iota", [0x3b9], false⟩, ⟨"iprod", [0x2a3c], false⟩, ⟨"iquest", [0xbf], true⟩,
    ⟨"iscr", [0x1d4be], false⟩, ⟨"isin", [0x2208], false⟩, ⟨"isinE", [0x22f9], false⟩,
    ⟨"isindot", [0x22f5], false⟩, ⟨"isins", [0x22f4], false⟩, ⟨"isinsv", [0x22f3], false⟩,
    ⟨"isinv", [0x2208], false⟩, ⟨"it", [0x2062], false⟩, ⟨"itilde", [0x129], false⟩,
    ⟨"iukcy", [0x456], false⟩, ⟨"iuml", [0xef], true⟩]

/-- The names that begin with small J. -/
def smallJ : List Name :=
  [⟨"jcirc", [0x135], false⟩, ⟨"jcy", [0x439], false⟩, ⟨"jfr", [0x1d527], false⟩,
    ⟨"jmath", [0x237], false⟩, ⟨"jopf", [0x1d55b], false⟩, ⟨"jscr", [0x1d4bf], false⟩,
    ⟨"jsercy", [0x458], false⟩, ⟨"jukcy", [0x454], false⟩]

/-- The names that begin with small K. -/
def smallK : List Name :=
  [⟨"kappa", [0x3ba], false⟩, ⟨"kappav", [0x3f0], false⟩, ⟨"kcedil", [0x137], false⟩,
    ⟨"kcy", [0x43a], false⟩, ⟨"kfr", [0x1d528], false⟩, ⟨"kgreen", [0x138], false⟩,
    ⟨"khcy", [0x445], false⟩, ⟨"kjcy", [0x45c], false⟩, ⟨"kopf", [0x1d55c], false⟩,
    ⟨"kscr", [0x1d4c0], false⟩]

/-- The names that begin with small L. -/
def smallL : List Name :=
  [⟨"lAarr", [0x21da], false⟩, ⟨"lArr", [0x21d0], false⟩, ⟨"lAtail", [0x291b], false⟩,
    ⟨"lBarr", [0x290e], false⟩, ⟨"lE", [0x2266], false⟩, ⟨"lEg", [0x2a8b], false⟩,
    ⟨"lHar", [0x2962], false⟩, ⟨"lacute", [0x13a], false⟩, ⟨"laemptyv", [0x29b4], false⟩,
    ⟨"lagran", [0x2112], false⟩, ⟨"lambda", [0x3bb], false⟩, ⟨"lang", [0x27e8], false⟩,
    ⟨"langd", [0x2991], false⟩, ⟨"langle", [0x27e8], false⟩, ⟨"lap", [0x2a85], false⟩,
    ⟨"laquo", [0xab], true⟩, ⟨"larr", [0x2190], false⟩, ⟨"larrb", [0x21e4], false⟩,
    ⟨"larrbfs", [0x291f], false⟩, ⟨"larrfs", [0x291d], false⟩, ⟨"larrhk", [0x21a9], false⟩,
    ⟨"larrlp", [0x21ab], false⟩, ⟨"larrpl", [0x2939], false⟩, ⟨"larrsim", [0x2973], false⟩,
    ⟨"larrtl", [0x21a2], false⟩, ⟨"lat", [0x2aab], false⟩, ⟨"latail", [0x2919], false⟩,
    ⟨"late", [0x2aad], false⟩, ⟨"lates", [0x2aad, 0xfe00], false⟩, ⟨"lbarr", [0x290c], false⟩,
    ⟨"lbbrk", [0x2772], false⟩, ⟨"lbrace", [0x7b], false⟩, ⟨"lbrack", [0x5b], false⟩,
    ⟨"lbrke", [0x298b], false⟩, ⟨"lbrksld", [0x298f], false⟩, ⟨"lbrkslu", [0x298d], false⟩,
    ⟨"lcaron", [0x13e], false⟩, ⟨"lcedil", [0x13c], false⟩, ⟨"lceil", [0x2308], false⟩,
    ⟨"lcub", [0x7b], false⟩, ⟨"lcy", [0x43b], false⟩, ⟨"ldca", [0x2936], false⟩,
    ⟨"ldquo", [0x201c], false⟩, ⟨"ldquor", [0x201e], false⟩, ⟨"ldrdhar", [0x2967], false⟩,
    ⟨"ldrushar", [0x294b], false⟩, ⟨"ldsh", [0x21b2], false⟩, ⟨"le", [0x2264], false⟩,
    ⟨"leftarrow", [0x2190], false⟩, ⟨"leftarrowtail", [0x21a2], false⟩,
    ⟨"leftharpoondown", [0x21bd], false⟩, ⟨"leftharpoonup", [0x21bc], false⟩,
    ⟨"leftleftarrows", [0x21c7], false⟩, ⟨"leftrightarrow", [0x2194], false⟩,
    ⟨"leftrightarrows", [0x21c6], false⟩, ⟨"leftrightharpoons", [0x21cb], false⟩,
    ⟨"leftrightsquigarrow", [0x21ad], false⟩, ⟨"leftthreetimes", [0x22cb], false⟩,
    ⟨"leg", [0x22da], false⟩, ⟨"leq", [0x2264], false⟩, ⟨"leqq", [0x2266], false⟩,
    ⟨"leqslant", [0x2a7d], false⟩, ⟨"les", [0x2a7d], false⟩, ⟨"lescc", [0x2aa8], false⟩,
    ⟨"lesdot", [0x2a7f], false⟩, ⟨"lesdoto", [0x2a81], false⟩, ⟨"lesdotor", [0x2a83], false⟩,
    ⟨"lesg", [0x22da, 0xfe00], false⟩, ⟨"lesges", [0x2a93], false⟩,
    ⟨"lessapprox", [0x2a85], false⟩, ⟨"lessdot", [0x22d6], false⟩,
    ⟨"lesseqgtr", [0x22da], false⟩, ⟨"lesseqqgtr", [0x2a8b], false⟩,
    ⟨"lessgtr", [0x2276], false⟩, ⟨"lesssim", [0x2272], false⟩, ⟨"lfisht", [0x297c], false⟩,
    ⟨"lfloor", [0x230a], false⟩, ⟨"lfr", [0x1d529], false⟩, ⟨"lg", [0x2276], false⟩,
    ⟨"lgE", [0x2a91], false⟩, ⟨"lhard", [0x21bd], false⟩, ⟨"lharu", [0x21bc], false⟩,
    ⟨"lharul", [0x296a], false⟩, ⟨"lhblk", [0x2584], false⟩, ⟨"ljcy", [0x459], false⟩,
    ⟨"ll", [0x226a], false⟩, ⟨"llarr", [0x21c7], false⟩, ⟨"llcorner", [0x231e], false⟩,
    ⟨"llhard", [0x296b], false⟩, ⟨"lltri", [0x25fa], false⟩, ⟨"lmidot", [0x140], false⟩,
    ⟨"lmoust", [0x23b0], false⟩, ⟨"lmoustache", [0x23b0], false⟩, ⟨"lnE", [0x2268], false⟩,
    ⟨"lnap", [0x2a89], false⟩, ⟨"lnapprox", [0x2a89], false⟩, ⟨"lne", [0x2a87], false⟩,
    ⟨"lneq", [0x2a87], false⟩, ⟨"lneqq", [0x2268], false⟩, ⟨"lnsim", [0x22e6], false⟩,
    ⟨"loang", [0x27ec], false⟩, ⟨"loarr", [0x21fd], false⟩, ⟨"lobrk", [0x27e6], false⟩,
    ⟨"longleftarrow", [0x27f5], false⟩, ⟨"longleftrightarrow", [0x27f7], false⟩,
    ⟨"longmapsto", [0x27fc], false⟩, ⟨"longrightarrow", [0x27f6], false⟩,
    ⟨"looparrowleft", [0x21ab], false⟩, ⟨"looparrowright", [0x21ac], false⟩,
    ⟨"lopar", [0x2985], false⟩, ⟨"lopf", [0x1d55d], false⟩, ⟨"loplus", [0x2a2d], false⟩,
    ⟨"lotimes", [0x2a34], false⟩, ⟨"lowast", [0x2217], false⟩, ⟨"lowbar", [0x5f], false⟩,
    ⟨"loz", [0x25ca], false⟩, ⟨"lozenge", [0x25ca], false⟩, ⟨"lozf", [0x29eb], false⟩,
    ⟨"lpar", [0x28], false⟩, ⟨"lparlt", [0x2993], false⟩, ⟨"lrarr", [0x21c6], false⟩,
    ⟨"lrcorner", [0x231f], false⟩, ⟨"lrhar", [0x21cb], false⟩, ⟨"lrhard", [0x296d], false⟩,
    ⟨"lrm", [0x200e], false⟩, ⟨"lrtri", [0x22bf], false⟩, ⟨"lsaquo", [0x2039], false⟩,
    ⟨"lscr", [0x1d4c1], false⟩, ⟨"lsh", [0x21b0], false⟩, ⟨"lsim", [0x2272], false⟩,
    ⟨"lsime", [0x2a8d], false⟩, ⟨"lsimg", [0x2a8f], false⟩, ⟨"lsqb", [0x5b], false⟩,
    ⟨"lsquo", [0x2018], false⟩, ⟨"lsquor", [0x201a], false⟩, ⟨"lstrok", [0x142], false⟩,
    ⟨"lt", [0x3c], true⟩, ⟨"ltcc", [0x2aa6], false⟩, ⟨"ltcir", [0x2a79], false⟩,
    ⟨"ltdot", [0x22d6], false⟩, ⟨"lthree", [0x22cb], false⟩, ⟨"ltimes", [0x22c9], false⟩,
    ⟨"ltlarr", [0x2976], false⟩, ⟨"ltquest", [0x2a7b], false⟩, ⟨"ltrPar", [0x2996], false⟩,
    ⟨"ltri", [0x25c3], false⟩, ⟨"ltrie", [0x22b4], false⟩, ⟨"ltrif", [0x25c2], false⟩,
    ⟨"lurdshar", [0x294a], false⟩, ⟨"luruhar", [0x2966], false⟩,
    ⟨"lvertneqq", [0x2268, 0xfe00], false⟩, ⟨"lvnE", [0x2268, 0xfe00], false⟩]

/-- The names that begin with small M. -/
def smallM : List Name :=
  [⟨"mDDot", [0x223a], false⟩, ⟨"macr", [0xaf], true⟩, ⟨"male", [0x2642], false⟩,
    ⟨"malt", [0x2720], false⟩, ⟨"maltese", [0x2720], false⟩, ⟨"map", [0x21a6], false⟩,
    ⟨"mapsto", [0x21a6], false⟩, ⟨"mapstodown", [0x21a7], false⟩,
    ⟨"mapstoleft", [0x21a4], false⟩, ⟨"mapstoup", [0x21a5], false⟩, ⟨"marker", [0x25ae], false⟩,
    ⟨"mcomma", [0x2a29], false⟩, ⟨"mcy", [0x43c], false⟩, ⟨"mdash", [0x2014], false⟩,
    ⟨"measuredangle", [0x2221], false⟩, ⟨"mfr", [0x1d52a], false⟩, ⟨"mho", [0x2127], false⟩,
    ⟨"micro", [0xb5], true⟩, ⟨"mid", [0x2223], false⟩, ⟨"midast", [0x2a], false⟩,
    ⟨"midcir", [0x2af0], false⟩, ⟨"middot", [0xb7], true⟩, ⟨"minus", [0x2212], false⟩,
    ⟨"minusb", [0x229f], false⟩, ⟨"minusd", [0x2238], false⟩, ⟨"minusdu", [0x2a2a], false⟩,
    ⟨"mlcp", [0x2adb], false⟩, ⟨"mldr", [0x2026], false⟩, ⟨"mnplus", [0x2213], false⟩,
    ⟨"models", [0x22a7], false⟩, ⟨"mopf", [0x1d55e], false⟩, ⟨"mp", [0x2213], false⟩,
    ⟨"mscr", [0x1d4c2], false⟩, ⟨"mstpos", [0x223e], false⟩, ⟨"mu", [0x3bc], false⟩,
    ⟨"multimap", [0x22b8], false⟩, ⟨"mumap", [0x22b8], false⟩]

end TaggedMarkup.Text.CharacterReference
