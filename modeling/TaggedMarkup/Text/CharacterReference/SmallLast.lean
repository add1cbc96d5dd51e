import TaggedMarkup.Text.CharacterReference.Basic

/-! The named character references that begin with a small letter from N to Z. -/

namespace TaggedMarkup.Text.CharacterReference

/-- The names that begin with small N. -/
def smallN : List Name :=
  [⟨"nGg", [0x22d9, 0x338], false⟩, ⟨"nGt", [0x226b, 0x20d2], false⟩,
    ⟨"nGtv", [0x226b, 0x338], false⟩, ⟨"nLeftarrow", [0x21cd], false⟩,
    ⟨"nLeftrightarrow", [0x21ce], false⟩, ⟨"nLl", [0x22d8, 0x338], false⟩,
    ⟨"nLt", [0x226a, 0x20d2], false⟩, ⟨"nLtv", [0x226a, 0x338], false⟩,
    ⟨"nRightarrow", [0x21cf], false⟩, ⟨"nVDash", [0x22af], false⟩, ⟨"nVdash", [0x22ae], false⟩,
    ⟨"nabla", [0x2207], false⟩, ⟨"nacute", [0x144], false⟩, ⟨"nang", [0x2220, 0x20d2], false⟩,
    ⟨"nap", [0x2249], false⟩, ⟨"napE", [0x2a70, 0x338], false⟩,
    ⟨"napid", [0x224b, 0x338], false⟩, ⟨"napos", [0x149], false⟩, ⟨"napprox", [0x2249], false⟩,
    ⟨"natur", [0x266e], false⟩, ⟨"natural", [0x266e], false⟩, ⟨"naturals", [0x2115], false⟩,
    ⟨"nbsp", [0xa0], true⟩, ⟨"nbump", [0x224e, 0x338], false⟩,
    ⟨"nbumpe", [0x224f, 0x338], false⟩, ⟨"ncap", [0x2a43], false⟩, ⟨"ncaron", [0x148], false⟩,
    ⟨"ncedil", [0x146], false⟩, ⟨"ncong", [0x2247], false⟩,
    ⟨"ncongdot", [0x2a6d, 0x338], false⟩, ⟨"ncup", [0x2a42], false⟩, ⟨"ncy", [0x43d], false⟩,
    ⟨"ndash", [0x2013], false⟩, ⟨"ne", [0x2260], false⟩, ⟨"neArr", [0x21d7], false⟩,
    ⟨"nearhk", [0x2924], false⟩, ⟨"nearr", [0x2197], false⟩, ⟨"nearrow", [0x2197], false⟩,
    ⟨"nedot", [0x2250, 0x338], false⟩, ⟨"nequiv", [0x2262], false⟩, ⟨"nesear", [0x2928], false⟩,
    ⟨"nesim", [0x2242, 0x338], false⟩, ⟨"nexist", [0x2204], false⟩,
    ⟨"nexists", [0x2204], false⟩, ⟨"nfr", [0x1d52b], false⟩, ⟨"ngE", [0x2267, 0x338], false⟩,
    ⟨"nge", [0x2271], false⟩, ⟨"ngeq", [0x2271], false⟩, ⟨"ngeqq", [0x2267, 0x338], false⟩,
    ⟨"ngeqslant", [0x2a7e, 0x338], false⟩, ⟨"nges", [0x2a7e, 0x338], false⟩,
    ⟨"ngsim", [0x2275], false⟩, ⟨"ngt", [0x226f], false⟩, ⟨"ngtr", [0x226f], false⟩,
    ⟨"nhArr", [0x21ce], false⟩, ⟨"nharr", [0x21ae], false⟩, ⟨"nhpar", [0x2af2], false⟩,
    ⟨"ni", [0x220b], false⟩, ⟨"nis", [0x22fc], false⟩, ⟨"nisd", [0x22fa], false⟩,
    ⟨"niv", [0x220b], false⟩, ⟨"njcy", [0x45a], false⟩, ⟨"nlArr", [0x21cd], false⟩,
    ⟨"nlE", [0x2266, 0x338], false⟩, ⟨"nlarr", [0x219a], false⟩, ⟨"nldr", [0x2025], false⟩,
    ⟨"nle", [0x2270], false⟩, ⟨"nleftarrow", [0x219a], false⟩,
    ⟨"nleftrightarrow", [0x21ae], false⟩, ⟨"nleq", [0x2270], false⟩,
    ⟨"nleqq", [0x2266, 0x338], false⟩, ⟨"nleqslant", [0x2a7d, 0x338], false⟩,
    ⟨"nles", [0x2a7d, 0x338], false⟩, ⟨"nless", [0x226e], false⟩, ⟨"nlsim", [0x2274], false⟩,
    ⟨"nlt", [0x226e], false⟩, ⟨"nltri", [0x22ea], false⟩, ⟨"nltrie", [0x22ec], false⟩,
    ⟨"nmid", [0x2224], false⟩, ⟨"nopf", [0x1d55f], false⟩, ⟨"not", [0xac], true⟩,
    ⟨"notin", [0x2209], false⟩, ⟨"notinE", [0x22f9, 0x338], false⟩,
    ⟨"notindot", [0x22f5, 0x338], false⟩, ⟨"notinva", [0x2209], false⟩,
    ⟨"notinvb", [0x22f7], false⟩, ⟨"notinvc", [0x22f6], false⟩, ⟨"notni", [0x220c], false⟩,
    ⟨"notniva", [0x220c], false⟩, ⟨"notnivb", [0x22fe], false⟩, ⟨"notnivc", [0x22fd], false⟩,
    ⟨"npar", [0x2226], false⟩, ⟨"nparallel", [0x2226], false⟩,
    ⟨"nparsl", [0x2afd, 0x20e5], false⟩, ⟨"npart", [0x2202, 0x338], false⟩,
    ⟨"npolint", [0x2a14], false⟩, ⟨"npr", [0x2280], false⟩, ⟨"nprcue", [0x22e0], false⟩,
    ⟨"npre", [0x2aaf, 0x338], false⟩, ⟨"nprec", [0x2280], false⟩,
    ⟨"npreceq", [0x2aaf, 0x338], false⟩, ⟨"nrArr", [0x21cf], false⟩, ⟨"nrarr", [0x219b], false⟩,
    ⟨"nrarrc", [0x2933, 0x338], false⟩, ⟨"nrarrw", [0x219d, 0x338], false⟩,
    ⟨"nrightarrow", [0x219b], false⟩, ⟨"nrtri", [0x22eb], false⟩, ⟨"nrtrie", [0x22ed], false⟩,
    ⟨"nsc", [0x2281], false⟩, ⟨"nsccue", [0x22e1], false⟩, ⟨"nsce", [0x2ab0, 0x338], false⟩,
    ⟨"nscr", [0x1d4c3], false⟩, ⟨"nshortmid", [0x2224], false⟩,
    ⟨"nshortparallel", [0x2226], false⟩, ⟨"nsim", [0x2241], false⟩, ⟨"nsime", [0x2244], false⟩,
    ⟨"nsimeq", [0x2244], false⟩, ⟨"nsmid", [0x2224], false⟩, ⟨"nspar", [0x2226], false⟩,
    ⟨"nsqsube", [0x22e2], false⟩, ⟨"nsqsupe", [0x22e3], false⟩, ⟨"nsub", [0x2284], false⟩,
    ⟨"nsubE", [0x2ac5, 0x338], false⟩, ⟨"nsube", [0x2288], false⟩,
    ⟨"nsubset", [0x2282, 0x20d2], false⟩, ⟨"nsubseteq", [0x2288], false⟩,
    ⟨"nsubseteqq", [0x2ac5, 0x338], false⟩, ⟨"nsucc", [0x2281], false⟩,
    ⟨"nsucceq", [0x2ab0, 0x338], false⟩, ⟨"nsup", [0x2285], false⟩,
    ⟨"nsupE", [0x2ac6, 0x338], false⟩, ⟨"nsupe", [0x2289], false⟩,
    ⟨"nsupset", [0x2283, 0x20d2], false⟩, ⟨"nsupseteq", [0x2289], false⟩,
    ⟨"nsupseteqq", [0x2ac6, 0x338], false⟩, ⟨"ntgl", [0x2279], false⟩, ⟨"ntilde", [0xf1], true⟩,
    ⟨"ntlg", [0x2278], false⟩, ⟨"ntriangleleft", [0x22ea], false⟩,
    ⟨"ntrianglelefteq", [0x22ec], false⟩, ⟨"ntriangleright", [0x22eb], false⟩,
    ⟨"ntrianglerighteq", [0x22ed], false⟩, ⟨"nu", [0x3bd], false⟩, ⟨"num", [0x23], false⟩,
    ⟨"numero", [0x2116], false⟩, ⟨"numsp", [0x2007], false⟩, ⟨"nvDash", [0x22ad], false⟩,
    ⟨"nvHarr", [0x2904], false⟩, ⟨"nvap", [0x224d, 0x20d2], false⟩, ⟨"nvdash", [0x22ac], false⟩,
    ⟨"nvge", [0x2265, 0x20d2], false⟩, ⟨"nvgt", [0x3e, 0x20d2], false⟩,
    ⟨"nvinfin", [0x29de], false⟩, ⟨"nvlArr", [0x2902], false⟩,
    ⟨"nvle", [0x2264, 0x20d2], false⟩, ⟨"nvlt", [0x3c, 0x20d2], false⟩,
    ⟨"nvltrie", [0x22b4, 0x20d2], false⟩, ⟨"nvrArr", [0x2903], false⟩,
    ⟨"nvrtrie", [0x22b5, 0x20d2], false⟩, ⟨"nvsim", [0x223c, 0x20d2], false⟩,
    ⟨"nwArr", [0x21d6], false⟩, ⟨"nwarhk", [0x2923], false⟩, ⟨"nwarr", [0x2196], false⟩,
    ⟨"nwarrow", [0x2196], false⟩, ⟨"nwnear", [0x2927], false⟩]

/-- The names that begin with small O. -/
def smallO : List Name :=
  [⟨"oS", [0x24c8], false⟩, ⟨"oacute", [0xf3], true⟩, ⟨"oast", [0x229b], false⟩,
    ⟨"ocir", [0x229a], false⟩, ⟨"ocirc", [0xf4], true⟩, ⟨"ocy", [0x43e], false⟩,
    ⟨"odash", [0x229d], false⟩, ⟨"odblac", [0x151], false⟩, ⟨"odiv", [0x2a38], false⟩,
    ⟨"odot", [0x2299], false⟩, ⟨"odsold", [0x29bc], false⟩, ⟨"oelig", [0x153], false⟩,
    ⟨"ofcir", [0x29bf], false⟩, ⟨"ofr", [0x1d52c], false⟩, ⟨"ogon", [0x2db], false⟩,
    ⟨"ograve", [0xf2], true⟩, ⟨"ogt", [0x29c1], false⟩, ⟨"ohbar", [0x29b5], false⟩,
    ⟨"ohm", [0x3a9], false⟩, ⟨"oint", [0x222e], false⟩, ⟨"olarr", [0x21ba], false⟩,
    ⟨"olcir", [0x29be], false⟩, ⟨"olcross", [0x29bb], false⟩, ⟨"oline", [0x203e], false⟩,
    ⟨"olt", [0x29c0], false⟩, ⟨"omacr", [0x14d], false⟩, ⟨"omega", [0x3c9], false⟩,
    ⟨"omicron", [0x3bf], false⟩, ⟨"omid", [0x29b6], false⟩, ⟨"ominus", [0x2296], false⟩,
    ⟨"oopf", [0x1d560], false⟩, ⟨"opar", [0x29b7], false⟩, ⟨"operp", [0x29b9], false⟩,
    ⟨"oplus", [0x2295], false⟩, ⟨"or", [0x2228], false⟩, ⟨"orarr", [0x21bb], false⟩,
    ⟨"ord", [0x2a5d], false⟩, ⟨"order", [0x2134], false⟩, ⟨"orderof", [0x2134], false⟩,
    ⟨"ordf", [0xaa], true⟩, ⟨"ordm", [0xba], true⟩, ⟨"origof", [0x22b6], false⟩,
    ⟨"oror", [0x2a56], false⟩, ⟨"orslope", [0x2a57], false⟩, ⟨"orv", [0x2a5b], false⟩,
    ⟨"oscr", [0x2134], false⟩, ⟨"oslash", [0xf8], true⟩, ⟨"osol", [0x2298], false⟩,
    ⟨"otilde", [0xf5], true⟩, ⟨"otimes", [0x2297], false⟩, ⟨"otimesas", [0x2a36], false⟩,
    ⟨"ouml", [0xf6], true⟩, ⟨"ovbar", [0x233d], false⟩]

/-- The names that begin with small P. -/
def smallP : List Name :=
  [⟨"par", [0x2225], false⟩, ⟨"para", [0xb6], true⟩, ⟨"parallel", [0x2225], false⟩,
    ⟨"parsim", [0x2af3], false⟩, ⟨"parsl", [0x2afd], false⟩, ⟨"part", [0x2202], false⟩,
    ⟨"pcy", [0x43f], false⟩, ⟨"percnt", [0x25], false⟩, ⟨"period", [0x2e], false⟩,
    ⟨"permil", [0x2030], false⟩, ⟨"perp", [0x22a5], false⟩, ⟨"pertenk", [0x2031], false⟩,
    ⟨"pfr", [0x1d52d], false⟩, ⟨"phi", [0x3c6], false⟩, ⟨"phiv", [0x3d5], false⟩,
    ⟨"phmmat", [0x2133], false⟩, ⟨"phone", [0x260e], false⟩, ⟨"pi", [0x3c0], false⟩,
    ⟨"pitchfork", [0x22d4], false⟩, ⟨"piv", [0x3d6], false⟩, ⟨"planck", [0x210f], false⟩,
    ⟨"planckh", [0x210e], false⟩, ⟨"plankv", [0x210f], false⟩, ⟨"plus", [0x2b], false⟩,
    ⟨"plusacir", [0x2a23], false⟩, ⟨"plusb", [0x229e], false⟩, ⟨"pluscir", [0x2a22], false⟩,
    ⟨"plusdo", [0x2214], false⟩, ⟨"plusdu", [0x2a25], false⟩, ⟨"pluse", [0x2a72], false⟩,
    ⟨"plusmn", [0xb1], true⟩, ⟨"plussim", [0x2a26], false⟩, ⟨"plustwo", [0x2a27], false⟩,
    ⟨"pm", [0xb1], false⟩, ⟨"pointint", [0x2a15], false⟩, ⟨"popf", [0x1d561], false⟩,
    ⟨"pound", [0xa3], true⟩, ⟨"pr", [0x227a], false⟩, ⟨"prE", [0x2ab3], false⟩,
    ⟨"prap", [0x2ab7], false⟩, ⟨"prcue", [0x227c], false⟩, ⟨"pre", [0x2aaf], false⟩,
    ⟨"prec", [0x227a], false⟩, ⟨"precapprox", [0x2ab7], false⟩,
    ⟨"preccurlyeq", [0x227c], false⟩, ⟨"preceq", [0x2aaf], false⟩,
    ⟨"precnapprox", [0x2ab9], false⟩, ⟨"precneqq", [0x2ab5], false⟩,
    ⟨"precnsim", [0x22e8], false⟩, ⟨"precsim", [0x227e], false⟩, ⟨"prime", [0x2032], false⟩,
    ⟨"primes", [0x2119], false⟩, ⟨"prnE", [0x2ab5], false⟩, ⟨"prnap", [0x2ab9], false⟩,
    ⟨"prnsim", [0x22e8], false⟩, ⟨"prod", [0x220f], false⟩, ⟨"profalar", [0x232e], false⟩,
    ⟨"profline", [0x2312], false⟩, ⟨"profsurf", [0x2313], false⟩, ⟨"prop", [0x221d], false⟩,
    ⟨"propto", [0x221d], false⟩, ⟨"prsim", [0x227e], false⟩, ⟨"prurel", [0x22b0], false⟩,
    ⟨"pscr", [0x1d4c5], false⟩, ⟨"psi", [0x3c8], false⟩, ⟨"puncsp", [0x2008], false⟩]

/-- The names that begin with small Q. -/
def smallQ : List Name :=
  [⟨"qfr", [0x1d52e], false⟩, ⟨"qint", [0x2a0c], false⟩, ⟨"qopf", [0x1d562], false⟩,
    ⟨"qprime", [0x2057], false⟩, ⟨"qscr", [0x1d4c6], false⟩, ⟨"quaternions", [0x210d], false⟩,
    ⟨"quatint", [0x2a16], false⟩, ⟨"quest", [0x3f], false⟩, ⟨"questeq", [0x225f], false⟩,
    ⟨"quot", [0x22], true⟩]

/-- The names that begin with small R. -/
def smallR : List Name :=
  [⟨"rAarr", [0x21db], false⟩, ⟨"rArr", [0x21d2], false⟩, ⟨"rAtail", [0x291c], false⟩,
    ⟨"rBarr", [0x290f], false⟩, ⟨"rHar", [0x2964], false⟩, ⟨"race", [0x223d, 0x331], false⟩,
    ⟨"racute", [0x155], false⟩, ⟨"radic", [0x221a], false⟩, ⟨"raemptyv", [0x29b3], false⟩,
    ⟨"rang", [0x27e9], false⟩, ⟨"rangd", [0x2992], false⟩, ⟨"range", [0x29a5], false⟩,
    ⟨"rangle", [0x27e9], false⟩, ⟨"raquo", [0xbb], true⟩, ⟨"rarr", [0x2192], false⟩,
    ⟨"rarrap", [0x2975], false⟩, ⟨"rarrb", [0x21e5], false⟩, ⟨"rarrbfs", [0x2920], false⟩,
    ⟨"rarrc", [0x2933], false⟩, ⟨"rarrfs", [0x291e], false⟩, ⟨"rarrhk", [0x21aa], false⟩,
    ⟨"rarrlp", [0x21ac], false⟩, ⟨"rarrpl", [0x2945], false⟩, ⟨"rarrsim", [0x2974], false⟩,
    ⟨"rarrtl", [0x21a3], false⟩, ⟨"rarrw", [0x219d], false⟩, ⟨"ratail", [0x291a], false⟩,
    ⟨"ratio", [0x2236], false⟩, ⟨"rationals", [0x211a], false⟩, ⟨"rbarr", [0x290d], false⟩,
    ⟨"rbbrk", [0x2773], false⟩, ⟨"rbrace", [0x7d], false⟩, ⟨"rbrack", [0x5d], false⟩,
    ⟨"rbrke", [0x298c], false⟩, ⟨"rbrksld", [0x298e], false⟩, ⟨"rbrkslu", [0x2990], false⟩,
    ⟨"rcaron", [0x159], false⟩, ⟨"rcedil", [0x157], false⟩, ⟨"rceil", [0x2309], false⟩,
    ⟨"rcub", [0x7d], false⟩, ⟨"rcy", [0x440], false⟩, ⟨"rdca", [0x2937], false⟩,
    ⟨"rdldhar", [0x2969], false⟩, ⟨"rdquo", [0x201d], false⟩, ⟨"rdquor", [0x201d], false⟩,
    ⟨"rdsh", [0x21b3], false⟩, ⟨"real", [0x211c], false⟩, ⟨"realine", [0x211b], false⟩,
    ⟨"realpart", [0x211c], false⟩, ⟨"reals", [0x211d], false⟩, ⟨"rect", [0x25ad], false⟩,
    ⟨"reg", [0xae], true⟩, ⟨"rfisht", [0x297d], false⟩, ⟨"rfloor", [0x230b], false⟩,
    ⟨"rfr", [0x1d52f], false⟩, ⟨"rhard", [0x21c1], false⟩, ⟨"rharu", [0x21c0], false⟩,
    ⟨"rharul", [0x296c], false⟩, ⟨"rho", [0x3c1], false⟩, ⟨"rhov", [0x3f1], false⟩,
    ⟨"rightarrow", [0x2192], false⟩, ⟨"rightarrowtail", [0x21a3], false⟩,
    ⟨"rightharpoondown", [0x21c1], false⟩, ⟨"rightharpoonup", [0x21c0], false⟩,
    ⟨"rightleftarrows", [0x21c4], false⟩, ⟨"rightleftharpoons", [0x21cc], false⟩,
    ⟨"rightrightarrows", [0x21c9], false⟩, ⟨"rightsquigarrow", [0x219d], false⟩,
    ⟨"rightthreetimes", [0x22cc], false⟩, ⟨"ring", [0x2da], false⟩,
    ⟨"risingdotseq", [0x2253], false⟩, ⟨"rlarr", [0x21c4], false⟩, ⟨"rlhar", [0x21cc], false⟩,
    ⟨"rlm", [0x200f], false⟩, ⟨"rmoust", [0x23b1], false⟩, ⟨"rmoustache", [0x23b1], false⟩,
    ⟨"rnmid", [0x2aee], false⟩, ⟨"roang", [0x27ed], false⟩, ⟨"roarr", [0x21fe], false⟩,
    ⟨"robrk", [0x27e7], false⟩, ⟨"ropar", [0x2986], false⟩, ⟨"ropf", [0x1d563], false⟩,
    ⟨"roplus", [0x2a2e], false⟩, ⟨"rotimes", [0x2a35], false⟩, ⟨"rpar", [0x29], false⟩,
    ⟨"rpargt", [0x2994], false⟩, ⟨"rppolint", [0x2a12], false⟩, ⟨"rrarr", [0x21c9], false⟩,
    ⟨"rsaquo", [0x203a], false⟩, ⟨"rscr", [0x1d4c7], false⟩, ⟨"rsh", [0x21b1], false⟩,
    ⟨"rsqb", [0x5d], false⟩, ⟨"rsquo", [0x2019], false⟩, ⟨"rsquor", [0x2019], false⟩,
    ⟨"rthree", [0x22cc], false⟩, ⟨"rtimes", [0x22ca], false⟩, ⟨"rtri", [0x25b9], false⟩,
    ⟨"rtrie", [0x22b5], false⟩, ⟨"rtrif", [0x25b8], false⟩, ⟨"rtriltri", [0x29ce], false⟩,
    ⟨"ruluhar", [0x2968], false⟩, ⟨"rx", [0x211e], false⟩]

/-- The names that begin with small S. -/
def smallS : List Name :=
  [⟨"sacute", [0x15b], false⟩, ⟨"sbquo", [0x201a], false⟩, ⟨"sc", [0x227b], false⟩,
    ⟨"scE", [0x2ab4], false⟩, ⟨"scap", [0x2ab8], false⟩, ⟨"scaron", [0x161], false⟩,
    ⟨"sccue", [0x227d], false⟩, ⟨"sce", [0x2ab0], false⟩, ⟨"scedil", [0x15f], false⟩,
    ⟨"scirc", [0x15d], false⟩, ⟨"scnE", [0x2ab6], false⟩, ⟨"scnap", [0x2aba], false⟩,
    ⟨"scnsim", [0x22e9], false⟩, ⟨"scpolint", [0x2a13], false⟩, ⟨"scsim", [0x227f], false⟩,
    ⟨"scy", [0x441], false⟩, ⟨"sdot", [0x22c5], false⟩, ⟨"sdotb", [0x22a1], false⟩,
    ⟨"sdote", [0x2a66], false⟩, ⟨"seArr", [0x21d8], false⟩, ⟨"searhk", [0x2925], false⟩,
    ⟨"searr", [0x2198], false⟩, ⟨"searrow", [0x2198], false⟩, ⟨"sect", [0xa7], true⟩,
    ⟨"semi", [0x3b], false⟩, ⟨"seswar", [0x2929], false⟩, ⟨"setminus", [0x2216], false⟩,
    ⟨"setmn", [0x2216], false⟩, ⟨"sext", [0x2736], false⟩, ⟨"sfr", [0x1d530], false⟩,
    ⟨"sfrown", [0x2322], false⟩, ⟨"sharp", [0x266f], false⟩, ⟨"shchcy", [0x449], false⟩,
    ⟨"shcy", [0x448], false⟩, ⟨"shortmid", [0x2223], false⟩, ⟨"shortparallel", [0x2225], false⟩,
    ⟨"shy", [0xad], true⟩, ⟨"sigma", [0x3c3], false⟩, ⟨"sigmaf", [0x3c2], false⟩,
    ⟨"sigmav", [0x3c2], false⟩, ⟨"sim", [0x223c], false⟩, ⟨"simdot", [0x2a6a], false⟩,
    ⟨"sime", [0x2243], false⟩, ⟨"simeq", [0x2243], false⟩, ⟨"simg", [0x2a9e], false⟩,
    ⟨"simgE", [0x2aa0], false⟩, ⟨"siml", [0x2a9d], false⟩, ⟨"simlE", [0x2a9f], false⟩,
    ⟨"simne", [0x2246], false⟩, ⟨"simplus", [0x2a24], false⟩, ⟨"simrarr", [0x2972], false⟩,
    ⟨"slarr", [0x2190], false⟩, ⟨"smallsetminus", [0x2216], false⟩, ⟨"smashp", [0x2a33], false⟩,
    ⟨"smeparsl", [0x29e4], false⟩, ⟨"smid", [0x2223], false⟩, ⟨"smile", [0x2323], false⟩,
    ⟨"smt", [0x2aaa], false⟩, ⟨"smte", [0x2aac], false⟩, ⟨"smtes", [0x2aac, 0xfe00], false⟩,
    ⟨"softcy", [0x44c], false⟩, ⟨"sol", [0x2f], false⟩, ⟨"solb", [0x29c4], false⟩,
    ⟨"solbar", [0x233f], false⟩, ⟨"sopf", [0x1d564], false⟩, ⟨"spades", [0x2660], false⟩,
    ⟨"spadesuit", [0x2660], false⟩, ⟨"spar", [0x2225], false⟩, ⟨"sqcap", [0x2293], false⟩,
    ⟨"sqcaps", [0x2293, 0xfe00], false⟩, ⟨"sqcup", [0x2294], false⟩,
    ⟨"sqcups", [0x2294, 0xfe00], false⟩, ⟨"sqsub", [0x228f], false⟩,
    ⟨"sqsube", [0x2291], false⟩, ⟨"sqsubset", [0x228f], false⟩, ⟨"sqsubseteq", [0x2291], false⟩,
    ⟨"sqsup", [0x2290], false⟩, ⟨"sqsupe", [0x2292], false⟩, ⟨"sqsupset", [0x2290], false⟩,
    ⟨"sqsupseteq", [0x2292], false⟩, ⟨"squ", [0x25a1], false⟩, ⟨"square", [0x25a1], false⟩,
    ⟨"squarf", [0x25aa], false⟩, ⟨"squf", [0x25aa], false⟩, ⟨"srarr", [0x2192], false⟩,
    ⟨"sscr", [0x1d4c8], false⟩, ⟨"ssetmn", [0x2216], false⟩, ⟨"ssmile", [0x2323], false⟩,
    ⟨"sstarf", [0x22c6], false⟩, ⟨"star", [0x2606], false⟩, ⟨"starf", [0x2605], false⟩,
    ⟨"straightepsilon", [0x3f5], false⟩, ⟨"straightphi", [0x3d5], false⟩,
    ⟨"strns", [0xaf], false⟩, ⟨"sub", [0x2282], false⟩, ⟨"subE", [0x2ac5], false⟩,
    ⟨"subdot", [0x2abd], false⟩, ⟨"sube", [0x2286], false⟩, ⟨"subedot", [0x2ac3], false⟩,
    ⟨"submult", [0x2ac1], false⟩, ⟨"subnE", [0x2acb], false⟩, ⟨"subne", [0x228a], false⟩,
    ⟨"subplus", [0x2abf], false⟩, ⟨"subrarr", [0x2979], false⟩, ⟨"subset", [0x2282], false⟩,
    ⟨"subseteq", [0x2286], false⟩, ⟨"subseteqq", [0x2ac5], false⟩,
    ⟨"subsetneq", [0x228a], false⟩, ⟨"subsetneqq", [0x2acb], false⟩,
    ⟨"subsim", [0x2ac7], false⟩, ⟨"subsub", [0x2ad5], false⟩, ⟨"subsup", [0x2ad3], false⟩,
    ⟨"succ", [0x227b], false⟩, ⟨"succapprox", [0x2ab8], false⟩,
    ⟨"succcurlyeq", [0x227d], false⟩, ⟨"succeq", [0x2ab0], false⟩,
    ⟨"succnapprox", [0x2aba], false⟩, ⟨"succneqq", [0x2ab6], false⟩,
    ⟨"succnsim", [0x22e9], false⟩, ⟨"succsim", [0x227f], false⟩, ⟨"sum", [0x2211], false⟩,
    ⟨"sung", [0x266a], false⟩, ⟨"sup", [0x2283], false⟩, ⟨"sup1", [0xb9], true⟩,
    ⟨"sup2", [0xb2], true⟩, ⟨"sup3", [0xb3], true⟩, ⟨"supE", [0x2ac6], false⟩,
    ⟨"supdot", [0x2abe], false⟩, ⟨"supdsub", [0x2ad8], false⟩, ⟨"supe", [0x2287], false⟩,
    ⟨"supedot", [0x2ac4], false⟩, ⟨"suphsol", [0x27c9], false⟩, ⟨"suphsub", [0x2ad7], false⟩,
    ⟨"suplarr", [0x297b], false⟩, ⟨"supmult", [0x2ac2], false⟩, ⟨"supnE", [0x2acc], false⟩,
    ⟨"supne", [0x228b], false⟩, ⟨"supplus", [0x2ac0], false⟩, ⟨"supset", [0x2283], false⟩,
    ⟨"supseteq", [0x2287], false⟩, ⟨"supseteqq", [0x2ac6], false⟩,
    ⟨"supsetneq", [0x228b], false⟩, ⟨"supsetneqq", [0x2acc], false⟩,
    ⟨"supsim", [0x2ac8], false⟩, ⟨"supsub", [0x2ad4], false⟩, ⟨"supsup", [0x2ad6], false⟩,
    ⟨"swArr", [0x21d9], false⟩, ⟨"swarhk", [0x2926], false⟩, ⟨"swarr", [0x2199], false⟩,
    ⟨"swarrow", [0x2199], false⟩, ⟨"swnwar", [0x292a], false⟩, ⟨"szlig", [0xdf], true⟩]

/-- The names that begin with small T. -/
def smallT : List Name :=
  [⟨"target", [0x2316], false⟩, ⟨"tau", [0x3c4], false⟩, ⟨"tbrk", [0x23b4], false⟩,
    ⟨"tcaron", [0x165], false⟩, ⟨"tcedil", [0x163], false⟩, ⟨"tcy", [0x442], false⟩,
    ⟨"tdot", [0x20db], false⟩, ⟨"telrec", [0x2315], false⟩, ⟨"tfr", [0x1d531], false⟩,
    ⟨"there4", [0x2234], false⟩, ⟨"therefore", [0x2234], false⟩, ⟨"theta", [0x3b8], false⟩,
    ⟨"thetasym", [0x3d1], false⟩, ⟨"thetav", [0x3d1], false⟩, ⟨"thickapprox", [0x2248], false⟩,
    ⟨"thicksim", [0x223c], false⟩, ⟨"thinsp", [0x2009], false⟩, ⟨"thkap", [0x2248], false⟩,
    ⟨"thksim", [0x223c], false⟩, ⟨"thorn", [0xfe], true⟩, ⟨"tilde", [0x2dc], false⟩,
    ⟨"times", [0xd7], true⟩, ⟨"timesb", [0x22a0], false⟩, ⟨"timesbar", [0x2a31], false⟩,
    ⟨"timesd", [0x2a30], false⟩, ⟨"tint", [0x222d], false⟩, ⟨"toea", [0x2928], false⟩,
    ⟨"top", [0x22a4], false⟩, ⟨"topbot", [0x2336], false⟩, ⟨"topcir", [0x2af1], false⟩,
    ⟨"topf", [0x1d565], false⟩, ⟨"topfork", [0x2ada], false⟩, ⟨"tosa", [0x2929], false⟩,
    ⟨"tprime", [0x2034], false⟩, ⟨"trade", [0x2122], false⟩, ⟨"triangle", [0x25b5], false⟩,
    ⟨"triangledown", [0x25bf], false⟩, ⟨"triangleleft", [0x25c3], false⟩,
    ⟨"trianglelefteq", [0x22b4], false⟩, ⟨"triangleq", [0x225c], false⟩,
    ⟨"triangleright", [0x25b9], false⟩, ⟨"trianglerighteq", [0x22b5], false⟩,
    ⟨"tridot", [0x25ec], false⟩, ⟨"trie", [0x225c], false⟩, ⟨"triminus", [0x2a3a], false⟩,
    ⟨"triplus", [0x2a39], false⟩, ⟨"trisb", [0x29cd], false⟩, ⟨"tritime", [0x2a3b], false⟩,
    ⟨"trpezium", [0x23e2], false⟩, ⟨"tscr", [0x1d4c9], false⟩, ⟨"tscy", [0x446], false⟩,
    ⟨"tshcy", [0x45b], false⟩, ⟨"tstrok", [0x167], false⟩, ⟨"twixt", [0x226c], false⟩,
    ⟨"twoheadleftarrow", [0x219e], false⟩, ⟨"twoheadrightarrow", [0x21a0], false⟩]

/-- The names that begin with small U. -/
def smallU : List Name :=
  [⟨"uArr", [0x21d1], false⟩, ⟨"uHar", [0x2963], false⟩, ⟨"uacute", [0xfa], true⟩,
    ⟨"uarr", [0x2191], false⟩, ⟨"ubrcy", [0x45e], false⟩, ⟨"ubreve", [0x16d], false⟩,
    ⟨"ucirc", [0xfb], true⟩, ⟨"ucy", [0x443], false⟩, ⟨"udarr", [0x21c5], false⟩,
    ⟨"udblac", [0x171], false⟩, ⟨"udhar", [0x296e], false⟩, ⟨"ufisht", [0x297e], false⟩,
    ⟨"ufr", [0x1d532], false⟩, ⟨"ugrave", [0xf9], true⟩, ⟨"uharl", [0x21bf], false⟩,
    ⟨"uharr", [0x21be], false⟩, ⟨"uhblk", [0x2580], false⟩, ⟨"ulcorn", [0x231c], false⟩,
    ⟨"ulcorner", [0x231c], false⟩, ⟨"ulcrop", [0x230f], false⟩, ⟨"ultri", [0x25f8], false⟩,
    ⟨"umacr", [0x16b], false⟩, ⟨"uml", [0xa8], true⟩, ⟨"uogon", [0x173], false⟩,
    ⟨"uopf", [0x1d566], false⟩, ⟨"uparrow", [0x2191], false⟩, ⟨"updownarrow", [0x2195], false⟩,
    ⟨"upharpoonleft", [0x21bf], false⟩, ⟨"upharpoonright", [0x21be], false⟩,
    ⟨"uplus", [0x228e], false⟩, ⟨"upsi", [0x3c5], false⟩, ⟨"upsih", [0x3d2], false⟩,
    ⟨"upsilon", [0x3c5], false⟩, ⟨"upuparrows", [0x21c8], false⟩, ⟨"urcorn", [0x231d], false⟩,
    ⟨"urcorner", [0x231d], false⟩, ⟨"urcrop", [0x230e], false⟩, ⟨"uring", [0x16f], false⟩,
    ⟨"urtri", [0x25f9], false⟩, ⟨"uscr", [0x1d4ca], false⟩, ⟨"utdot", [0x22f0], false⟩,
    ⟨"utilde", [0x169], false⟩, ⟨"utri", [0x25b5], false⟩, ⟨"utrif", [0x25b4], false⟩,
    ⟨"uuarr", [0x21c8], false⟩, ⟨"uuml", [0xfc], true⟩, ⟨"uwangle", [0x29a7], false⟩]

/-- The names that begin with small V. -/
def smallV : List Name :=
  [⟨"vArr", [0x21d5], false⟩, ⟨"vBar", [0x2ae8], false⟩, ⟨"vBarv", [0x2ae9], false⟩,
    ⟨"vDash", [0x22a8], false⟩, ⟨"vangrt", [0x299c], false⟩, ⟨"varepsilon", [0x3f5], false⟩,
    ⟨"varkappa", [0x3f0], false⟩, ⟨"varnothing", [0x2205], false⟩, ⟨"varphi", [0x3d5], false⟩,
    ⟨"varpi", [0x3d6], false⟩, ⟨"varpropto", [0x221d], false⟩, ⟨"varr", [0x2195], false⟩,
    ⟨"varrho", [0x3f1], false⟩, ⟨"varsigma", [0x3c2], false⟩,
    ⟨"varsubsetneq", [0x228a, 0xfe00], false⟩, ⟨"varsubsetneqq", [0x2acb, 0xfe00], false⟩,
    ⟨"varsupsetneq", [0x228b, 0xfe00], false⟩, ⟨"varsupsetneqq", [0x2acc, 0xfe00], false⟩,
    ⟨"vartheta", [0x3d1], false⟩, ⟨"vartriangleleft", [0x22b2], false⟩,
    ⟨"vartriangleright", [0x22b3], false⟩, ⟨"vcy", [0x432], false⟩, ⟨"vdash", [0x22a2], false⟩,
    ⟨"vee", [0x2228], false⟩, ⟨"veebar", [0x22bb], false⟩, ⟨"veeeq", [0x225a], false⟩,
    ⟨"vellip", [0x22ee], false⟩, ⟨"verbar", [0x7c], false⟩, ⟨"vert", [0x7c], false⟩,
    ⟨"vfr", [0x1d533], false⟩, ⟨"vltri", [0x22b2], false⟩, ⟨"vnsub", [0x2282, 0x20d2], false⟩,
    ⟨"vnsup", [0x2283, 0x20d2], false⟩, ⟨"vopf", [0x1d567], false⟩, ⟨"vprop", [0x221d], false⟩,
    ⟨"vrtri", [0x22b3], false⟩, ⟨"vscr", [0x1d4cb], false⟩, ⟨"vsubnE", [0x2acb, 0xfe00], false⟩,
    ⟨"vsubne", [0x228a, 0xfe00], false⟩, ⟨"vsupnE", [0x2acc, 0xfe00], false⟩,
    ⟨"vsupne", [0x228b, 0xfe00], false⟩, ⟨"vzigzag", [0x299a], false⟩]

/-- The names that begin with small W. -/
def smallW : List Name :=
  [⟨"wcirc", [0x175], false⟩, ⟨"wedbar", [0x2a5f], false⟩, ⟨"wedge", [0x2227], false⟩,
    ⟨"wedgeq", [0x2259], false⟩, ⟨"weierp", [0x2118], false⟩, ⟨"wfr", [0x1d534], false⟩,
    ⟨"wopf", [0x1d568], false⟩, ⟨"wp", [0x2118], false⟩, ⟨"wr", [0x2240], false⟩,
    ⟨"wreath", [0x2240], false⟩, ⟨"wscr", [0x1d4cc], false⟩]

/-- The names that begin with small X. -/
def smallX : List Name :=
  [⟨"xcap", [0x22c2], false⟩, ⟨"xcirc", [0x25ef], false⟩, ⟨"xcup", [0x22c3], false⟩,
    ⟨"xdtri", [0x25bd], false⟩, ⟨"xfr", [0x1d535], false⟩, ⟨"xhArr", [0x27fa], false⟩,
    ⟨"xharr", [0x27f7], false⟩, ⟨"xi", [0x3be], false⟩, ⟨"xlArr", [0x27f8], false⟩,
    ⟨"xlarr", [0x27f5], false⟩, ⟨"xmap", [0x27fc], false⟩, ⟨"xnis", [0x22fb], false⟩,
    ⟨"xodot", [0x2a00], false⟩, ⟨"xopf", [0x1d569], false⟩, ⟨"xoplus", [0x2a01], false⟩,
    ⟨"xotime", [0x2a02], false⟩, ⟨"xrArr", [0x27f9], false⟩, ⟨"xrarr", [0x27f6], false⟩,
    ⟨"xscr", [0x1d4cd], false⟩, ⟨"xsqcup", [0x2a06], false⟩, ⟨"xuplus", [0x2a04], false⟩,
    ⟨"xutri", [0x25b3], false⟩, ⟨"xvee", [0x22c1], false⟩, ⟨"xwedge", [0x22c0], false⟩]

/-- The names that begin with small Y. -/
def smallY : List Name :=
  [⟨"yacute", [0xfd], true⟩, ⟨"yacy", [0x44f], false⟩, ⟨"ycirc", [0x177], false⟩,
    ⟨"ycy", [0x44b], false⟩, ⟨"yen", [0xa5], true⟩, ⟨"yfr", [0x1d536], false⟩,
    ⟨"yicy", [0x457], false⟩, ⟨"yopf", [0x1d56a], false⟩, ⟨"yscr", [0x1d4ce], false⟩,
    ⟨"yucy", [0x44e], false⟩, ⟨"yuml", [0xff], true⟩]

/-- The names that begin with small Z. -/
def smallZ : List Name :=
  [⟨"zacute", [0x17a], false⟩, ⟨"zcaron", [0x17e], false⟩, ⟨"zcy", [0x437], false⟩,
    ⟨"zdot", [0x17c], false⟩, ⟨"zeetrf", [0x2128], false⟩, ⟨"zeta", [0x3b6], false⟩,
    ⟨"zfr", [0x1d537], false⟩, ⟨"zhcy", [0x436], false⟩, ⟨"zigrarr", [0x21dd], false⟩,
    ⟨"zopf", [0x1d56b], false⟩, ⟨"zscr", [0x1d4cf], false⟩, ⟨"zwj", [0x200d], false⟩,
    ⟨"zwnj", [0x200c], false⟩]

end TaggedMarkup.Text.CharacterReference
