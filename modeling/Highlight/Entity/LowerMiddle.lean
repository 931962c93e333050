/-! Named character references of HTML5 that start with a letter from i to o: the name after the
ampersand, and the code points it stands for. A name without its semicolon is listed where the
standard admits that spelling. -/
namespace Highlight.Entity

def lowerI : List (String × List Nat) := [
  ("iacute", [0xed]), ("iacute;", [0xed]), ("ic;", [0x2063]), ("icirc", [0xee]),
  ("icirc;", [0xee]), ("icy;", [0x438]), ("iecy;", [0x435]), ("iexcl", [0xa1]),
  ("iexcl;", [0xa1]), ("iff;", [0x21d4]), ("ifr;", [0x1d526]), ("igrave", [0xec]),
  ("igrave;", [0xec]), ("ii;", [0x2148]), ("iiiint;", [0x2a0c]), ("iiint;", [0x222d]),
  ("iinfin;", [0x29dc]), ("iiota;", [0x2129]), ("ijlig;", [0x133]), ("imacr;", [0x12b]),
  ("image;", [0x2111]), ("imagline;", [0x2110]), ("imagpart;", [0x2111]), ("imath;", [0x131]),
  ("imof;", [0x22b7]), ("imped;", [0x1b5]), ("in;", [0x2208]), ("incare;", [0x2105]),
  ("infin;", [0x221e]), ("infintie;", [0x29dd]), ("inodot;", [0x131]), ("int;", [0x222b]),
  ("intcal;", [0x22ba]), ("integers;", [0x2124]), ("intercal;", [0x22ba]),
  ("intlarhk;", [0x2a17]), ("intprod;", [0x2a3c]), ("iocy;", [0x451]), ("iogon;", [0x12f]),
  ("iopf;", [0x1d55a]), ("iota;", [0x3b9]), ("iprod;", [0x2a3c]), ("iquest", [0xbf]),
  ("iquest;", [0xbf]), ("iscr;", [0x1d4be]), ("isin;", [0x2208]), ("isinE;", [0x22f9]),
  ("isindot;", [0x22f5]), ("isins;", [0x22f4]), ("isinsv;", [0x22f3]), ("isinv;", [0x2208]),
  ("it;", [0x2062]), ("itilde;", [0x129]), ("iukcy;", [0x456]), ("iuml", [0xef]),
  ("iuml;", [0xef])]

def lowerJ : List (String × List Nat) := [
  ("jcirc;", [0x135]), ("jcy;", [0x439]), ("jfr;", [0x1d527]), ("jmath;", [0x237]),
  ("jopf;", [0x1d55b]), ("jscr;", [0x1d4bf]), ("jsercy;", [0x458]), ("jukcy;", [0x454])]

def lowerK : List (String × List Nat) := [
  ("kappa;", [0x3ba]), ("kappav;", [0x3f0]), ("kcedil;", [0x137]), ("kcy;", [0x43a]),
  ("kfr;", [0x1d528]), ("kgreen;", [0x138]), ("khcy;", [0x445]), ("kjcy;", [0x45c]),
  ("kopf;", [0x1d55c]), ("kscr;", [0x1d4c0])]

def lowerL : List (String × List Nat) := [
  ("lAarr;", [0x21da]), ("lArr;", [0x21d0]), ("lAtail;", [0x291b]), ("lBarr;", [0x290e]),
  ("lE;", [0x2266]), ("lEg;", [0x2a8b]), ("lHar;", [0x2962]), ("lacute;", [0x13a]),
  ("laemptyv;", [0x29b4]), ("lagran;", [0x2112]), ("lambda;", [0x3bb]), ("lang;", [0x27e8]),
  ("langd;", [0x2991]), ("langle;", [0x27e8]), ("lap;", [0x2a85]), ("laquo", [0xab]),
  ("laquo;", [0xab]), ("larr;", [0x2190]), ("larrb;", [0x21e4]), ("larrbfs;", [0x291f]),
  ("larrfs;", [0x291d]), ("larrhk;", [0x21a9]), ("larrlp;", [0x21ab]), ("larrpl;", [0x2939]),
  ("larrsim;", [0x2973]), ("larrtl;", [0x21a2]), ("lat;", [0x2aab]), ("latail;", [0x2919]),
  ("late;", [0x2aad]), ("lates;", [0x2aad, 0xfe00]), ("lbarr;", [0x290c]), ("lbbrk;", [0x2772]),
  ("lbrace;", [0x7b]), ("lbrack;", [0x5b]), ("lbrke;", [0x298b]), ("lbrksld;", [0x298f]),
  ("lbrkslu;", [0x298d]), ("lcaron;", [0x13e]), ("lcedil;", [0x13c]), ("lceil;", [0x2308]),
  ("lcub;", [0x7b]), ("lcy;", [0x43b]), ("ldca;", [0x2936]), ("ldquo;", [0x201c]),
  ("ldquor;", [0x201e]), ("ldrdhar;", [0x2967]), ("ldrushar;", [0x294b]), ("ldsh;", [0x21b2]),
  ("le;", [0x2264]), ("leftarrow;", [0x2190]), ("leftarrowtail;", [0x21a2]),
  ("leftharpoondown;", [0x21bd]), ("leftharpoonup;", [0x21bc]), ("leftleftarrows;", [0x21c7]),
  ("leftrightarrow;", [0x2194]), ("leftrightarrows;", [0x21c6]),
  ("leftrightharpoons;", [0x21cb]), ("leftrightsquigarrow;", [0x21ad]),
  ("leftthreetimes;", [0x22cb]), ("leg;", [0x22da]), ("leq;", [0x2264]), ("leqq;", [0x2266]),
  ("leqslant;", [0x2a7d]), ("les;", [0x2a7d]), ("lescc;", [0x2aa8]), ("lesdot;", [0x2a7f]),
  ("lesdoto;", [0x2a81]), ("lesdotor;", [0x2a83]), ("lesg;", [0x22da, 0xfe00]),
  ("lesges;", [0x2a93]), ("lessapprox;", [0x2a85]), ("lessdot;", [0x22d6]),
  ("lesseqgtr;", [0x22da]), ("lesseqqgtr;", [0x2a8b]), ("lessgtr;", [0x2276]),
  ("lesssim;", [0x2272]), ("lfisht;", [0x297c]), ("lfloor;", [0x230a]), ("lfr;", [0x1d529]),
  ("lg;", [0x2276]), ("lgE;", [0x2a91]), ("lhard;", [0x21bd]), ("lharu;", [0x21bc]),
  ("lharul;", [0x296a]), ("lhblk;", [0x2584]), ("ljcy;", [0x459]), ("ll;", [0x226a]),
  ("llarr;", [0x21c7]), ("llcorner;", [0x231e]), ("llhard;", [0x296b]), ("lltri;", [0x25fa]),
  ("lmidot;", [0x140]), ("lmoust;", [0x23b0]), ("lmoustache;", [0x23b0]), ("lnE;", [0x2268]),
  ("lnap;", [0x2a89]), ("lnapprox;", [0x2a89]), ("lne;", [0x2a87]), ("lneq;", [0x2a87]),
  ("lneqq;", [0x2268]), ("lnsim;", [0x22e6]), ("loang;", [0x27ec]), ("loarr;", [0x21fd]),
  ("lobrk;", [0x27e6]), ("longleftarrow;", [0x27f5]), ("longleftrightarrow;", [0x27f7]),
  ("longmapsto;", [0x27fc]), ("longrightarrow;", [0x27f6]), ("looparrowleft;", [0x21ab]),
  ("looparrowright;", [0x21ac]), ("lopar;", [0x2985]), ("lopf;", [0x1d55d]),
  ("loplus;", [0x2a2d]), ("lotimes;", [0x2a34]), ("lowast;", [0x2217]), ("lowbar;", [0x5f]),
  ("loz;", [0x25ca]), ("lozenge;", [0x25ca]), ("lozf;", [0x29eb]), ("lpar;", [0x28]),
  ("lparlt;", [0x2993]), ("lrarr;", [0x21c6]), ("lrcorner;", [0x231f]), ("lrhar;", [0x21cb]),
  ("lrhard;", [0x296d]), ("lrm;", [0x200e]), ("lrtri;", [0x22bf]), ("lsaquo;", [0x2039]),
  ("lscr;", [0x1d4c1]), ("lsh;", [0x21b0]), ("lsim;", [0x2272]), ("lsime;", [0x2a8d]),
  ("lsimg;", [0x2a8f]), ("lsqb;", [0x5b]), ("lsquo;", [0x2018]), ("lsquor;", [0x201a]),
  ("lstrok;", [0x142]), ("lt", [0x3c]), ("lt;", [0x3c]), ("ltcc;", [0x2aa6]),
  ("ltcir;", [0x2a79]), ("ltdot;", [0x22d6]), ("lthree;", [0x22cb]), ("ltimes;", [0x22c9]),
  ("ltlarr;", [0x2976]), ("ltquest;", [0x2a7b]), ("ltrPar;", [0x2996]), ("ltri;", [0x25c3]),
  ("ltrie;", [0x22b4]), ("ltrif;", [0x25c2]), ("lurdshar;", [0x294a]), ("luruhar;", [0x2966]),
  ("lvertneqq;", [0x2268, 0xfe00]), ("lvnE;", [0x2268, 0xfe00])]

def lowerM : List (String × List Nat) := [
  ("mDDot;", [0x223a]), ("macr", [0xaf]), ("macr;", [0xaf]), ("male;", [0x2642]),
  ("malt;", [0x2720]), ("maltese;", [0x2720]), ("map;", [0x21a6]), ("mapsto;", [0x21a6]),
  ("mapstodown;", [0x21a7]), ("mapstoleft;", [0x21a4]), ("mapstoup;", [0x21a5]),
  ("marker;", [0x25ae]), ("mcomma;", [0x2a29]), ("mcy;", [0x43c]), ("mdash;", [0x2014]),
  ("measuredangle;", [0x2221]), ("mfr;", [0x1d52a]), ("mho;", [0x2127]), ("micro", [0xb5]),
  ("micro;", [0xb5]), ("mid;", [0x2223]), ("midast;", [0x2a]), ("midcir;", [0x2af0]),
  ("middot", [0xb7]), ("middot;", [0xb7]), ("minus;", [0x2212]), ("minusb;", [0x229f]),
  ("minusd;", [0x2238]), ("minusdu;", [0x2a2a]), ("mlcp;", [0x2adb]), ("mldr;", [0x2026]),
  ("mnplus;", [0x2213]), ("models;", [0x22a7]), ("mopf;", [0x1d55e]), ("mp;", [0x2213]),
  ("mscr;", [0x1d4c2]), ("mstpos;", [0x223e]), ("mu;", [0x3bc]), ("multimap;", [0x22b8]),
  ("mumap;", [0x22b8])]

def lowerN : List (String × List Nat) := [
  ("nGg;", [0x22d9, 0x338]), ("nGt;", [0x226b, 0x20d2]), ("nGtv;", [0x226b, 0x338]),
  ("nLeftarrow;", [0x21cd]), ("nLeftrightarrow;", [0x21ce]), ("nLl;", [0x22d8, 0x338]),
  ("nLt;", [0x226a, 0x20d2]), ("nLtv;", [0x226a, 0x338]), ("nRightarrow;", [0x21cf]),
  ("nVDash;", [0x22af]), ("nVdash;", [0x22ae]), ("nabla;", [0x2207]), ("nacute;", [0x144]),
  ("nang;", [0x2220, 0x20d2]), ("nap;", [0x2249]), ("napE;", [0x2a70, 0x338]),
  ("napid;", [0x224b, 0x338]), ("napos;", [0x149]), ("napprox;", [0x2249]), ("natur;", [0x266e]),
  ("natural;", [0x266e]), ("naturals;", [0x2115]), ("nbsp", [0xa0]), ("nbsp;", [0xa0]),
  ("nbump;", [0x224e, 0x338]), ("nbumpe;", [0x224f, 0x338]), ("ncap;", [0x2a43]),
  ("ncaron;", [0x148]), ("ncedil;", [0x146]), ("ncong;", [0x2247]),
  ("ncongdot;", [0x2a6d, 0x338]), ("ncup;", [0x2a42]), ("ncy;", [0x43d]), ("ndash;", [0x2013]),
  ("ne;", [0x2260]), ("neArr;", [0x21d7]), ("nearhk;", [0x2924]), ("nearr;", [0x2197]),
  ("nearrow;", [0x2197]), ("nedot;", [0x2250, 0x338]), ("nequiv;", [0x2262]),
  ("nesear;", [0x2928]), ("nesim;", [0x2242, 0x338]), ("nexist;", [0x2204]),
  ("nexists;", [0x2204]), ("nfr;", [0x1d52b]), ("ngE;", [0x2267, 0x338]), ("nge;", [0x2271]),
  ("ngeq;", [0x2271]), ("ngeqq;", [0x2267, 0x338]), ("ngeqslant;", [0x2a7e, 0x338]),
  ("nges;", [0x2a7e, 0x338]), ("ngsim;", [0x2275]), ("ngt;", [0x226f]), ("ngtr;", [0x226f]),
  ("nhArr;", [0x21ce]), ("nharr;", [0x21ae]), ("nhpar;", [0x2af2]), ("ni;", [0x220b]),
  ("nis;", [0x22fc]), ("nisd;", [0x22fa]), ("niv;", [0x220b]), ("njcy;", [0x45a]),
  ("nlArr;", [0x21cd]), ("nlE;", [0x2266, 0x338]), ("nlarr;", [0x219a]), ("nldr;", [0x2025]),
  ("nle;", [0x2270]), ("nleftarrow;", [0x219a]), ("nleftrightarrow;", [0x21ae]),
  ("nleq;", [0x2270]), ("nleqq;", [0x2266, 0x338]), ("nleqslant;", [0x2a7d, 0x338]),
  ("nles;", [0x2a7d, 0x338]), ("nless;", [0x226e]), ("nlsim;", [0x2274]), ("nlt;", [0x226e]),
  ("nltri;", [0x22ea]), ("nltrie;", [0x22ec]), ("nmid;", [0x2224]), ("nopf;", [0x1d55f]),
  ("not", [0xac]), ("not;", [0xac]), ("notin;", [0x2209]), ("notinE;", [0x22f9, 0x338]),
  ("notindot;", [0x22f5, 0x338]), ("notinva;", [0x2209]), ("notinvb;", [0x22f7]),
  ("notinvc;", [0x22f6]), ("notni;", [0x220c]), ("notniva;", [0x220c]), ("notnivb;", [0x22fe]),
  ("notnivc;", [0x22fd]), ("npar;", [0x2226]), ("nparallel;", [0x2226]),
  ("nparsl;", [0x2afd, 0x20e5]), ("npart;", [0x2202, 0x338]), ("npolint;", [0x2a14]),
  ("npr;", [0x2280]), ("nprcue;", [0x22e0]), ("npre;", [0x2aaf, 0x338]), ("nprec;", [0x2280]),
  ("npreceq;", [0x2aaf, 0x338]), ("nrArr;", [0x21cf]), ("nrarr;", [0x219b]),
  ("nrarrc;", [0x2933, 0x338]), ("nrarrw;", [0x219d, 0x338]), ("nrightarrow;", [0x219b]),
  ("nrtri;", [0x22eb]), ("nrtrie;", [0x22ed]), ("nsc;", [0x2281]), ("nsccue;", [0x22e1]),
  ("nsce;", [0x2ab0, 0x338]), ("nscr;", [0x1d4c3]), ("nshortmid;", [0x2224]),
  ("nshortparallel;", [0x2226]), ("nsim;", [0x2241]), ("nsime;", [0x2244]),
  ("nsimeq;", [0x2244]), ("nsmid;", [0x2224]), ("nspar;", [0x2226]), ("nsqsube;", [0x22e2]),
  ("nsqsupe;", [0x22e3]), ("nsub;", [0x2284]), ("nsubE;", [0x2ac5, 0x338]), ("nsube;", [0x2288]),
  ("nsubset;", [0x2282, 0x20d2]), ("nsubseteq;", [0x2288]), ("nsubseteqq;", [0x2ac5, 0x338]),
  ("nsucc;", [0x2281]), ("nsucceq;", [0x2ab0, 0x338]), ("nsup;", [0x2285]),
  ("nsupE;", [0x2ac6, 0x338]), ("nsupe;", [0x2289]), ("nsupset;", [0x2283, 0x20d2]),
  ("nsupseteq;", [0x2289]), ("nsupseteqq;", [0x2ac6, 0x338]), ("ntgl;", [0x2279]),
  ("ntilde", [0xf1]), ("ntilde;", [0xf1]), ("ntlg;", [0x2278]), ("ntriangleleft;", [0x22ea]),
  ("ntrianglelefteq;", [0x22ec]), ("ntriangleright;", [0x22eb]), ("ntrianglerighteq;", [0x22ed]),
  ("nu;", [0x3bd]), ("num;", [0x23]), ("numero;", [0x2116]), ("numsp;", [0x2007]),
  ("nvDash;", [0x22ad]), ("nvHarr;", [0x2904]), ("nvap;", [0x224d, 0x20d2]),
  ("nvdash;", [0x22ac]), ("nvge;", [0x2265, 0x20d2]), ("nvgt;", [0x3e, 0x20d2]),
  ("nvinfin;", [0x29de]), ("nvlArr;", [0x2902]), ("nvle;", [0x2264, 0x20d2]),
  ("nvlt;", [0x3c, 0x20d2]), ("nvltrie;", [0x22b4, 0x20d2]), ("nvrArr;", [0x2903]),
  ("nvrtrie;", [0x22b5, 0x20d2]), ("nvsim;", [0x223c, 0x20d2]), ("nwArr;", [0x21d6]),
  ("nwarhk;", [0x2923]), ("nwarr;", [0x2196]), ("nwarrow;", [0x2196]), ("nwnear;", [0x2927])]

def lowerO : List (String × List Nat) := [
  ("oS;", [0x24c8]), ("oacute", [0xf3]), ("oacute;", [0xf3]), ("oast;", [0x229b]),
  ("ocir;", [0x229a]), ("ocirc", [0xf4]), ("ocirc;", [0xf4]), ("ocy;", [0x43e]),
  ("odash;", [0x229d]), ("odblac;", [0x151]), ("odiv;", [0x2a38]), ("odot;", [0x2299]),
  ("odsold;", [0x29bc]), ("oelig;", [0x153]), ("ofcir;", [0x29bf]), ("ofr;", [0x1d52c]),
  ("ogon;", [0x2db]), ("ograve", [0xf2]), ("ograve;", [0xf2]), ("ogt;", [0x29c1]),
  ("ohbar;", [0x29b5]), ("ohm;", [0x3a9]), ("oint;", [0x222e]), ("olarr;", [0x21ba]),
  ("olcir;", [0x29be]), ("olcross;", [0x29bb]), ("oline;", [0x203e]), ("olt;", [0x29c0]),
  ("omacr;", [0x14d]), ("omega;", [0x3c9]), ("omicron;", [0x3bf]), ("omid;", [0x29b6]),
  ("ominus;", [0x2296]), ("oopf;", [0x1d560]), ("opar;", [0x29b7]), ("operp;", [0x29b9]),
  ("oplus;", [0x2295]), ("or;", [0x2228]), ("orarr;", [0x21bb]), ("ord;", [0x2a5d]),
  ("order;", [0x2134]), ("orderof;", [0x2134]), ("ordf", [0xaa]), ("ordf;", [0xaa]),
  ("ordm", [0xba]), ("ordm;", [0xba]), ("origof;", [0x22b6]), ("oror;", [0x2a56]),
  ("orslope;", [0x2a57]), ("orv;", [0x2a5b]), ("oscr;", [0x2134]), ("oslash", [0xf8]),
  ("oslash;", [0xf8]), ("osol;", [0x2298]), ("otilde", [0xf5]), ("otilde;", [0xf5]),
  ("otimes;", [0x2297]), ("otimesas;", [0x2a36]), ("ouml", [0xf6]), ("ouml;", [0xf6]),
  ("ovbar;", [0x233d])]

end Highlight.Entity
