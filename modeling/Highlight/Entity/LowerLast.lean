/-! Named character references of HTML5 that start with a letter from p to z: the name after the
ampersand, and the code points it stands for. A name without its semicolon is listed where the
standard admits that spelling. -/
namespace Highlight.Entity

def lowerP : List (String × List Nat) := [
  ("par;", [0x2225]), ("para", [0xb6]), ("para;", [0xb6]), ("parallel;", [0x2225]),
  ("parsim;", [0x2af3]), ("parsl;", [0x2afd]), ("part;", [0x2202]), ("pcy;", [0x43f]),
  ("percnt;", [0x25]), ("period;", [0x2e]), ("permil;", [0x2030]), ("perp;", [0x22a5]),
  ("pertenk;", [0x2031]), ("pfr;", [0x1d52d]), ("phi;", [0x3c6]), ("phiv;", [0x3d5]),
  ("phmmat;", [0x2133]), ("phone;", [0x260e]), ("pi;", [0x3c0]), ("pitchfork;", [0x22d4]),
  ("piv;", [0x3d6]), ("planck;", [0x210f]), ("planckh;", [0x210e]), ("plankv;", [0x210f]),
  ("plus;", [0x2b]), ("plusacir;", [0x2a23]), ("plusb;", [0x229e]), ("pluscir;", [0x2a22]),
  ("plusdo;", [0x2214]), ("plusdu;", [0x2a25]), ("pluse;", [0x2a72]), ("plusmn", [0xb1]),
  ("plusmn;", [0xb1]), ("plussim;", [0x2a26]), ("plustwo;", [0x2a27]), ("pm;", [0xb1]),
  ("pointint;", [0x2a15]), ("popf;", [0x1d561]), ("pound", [0xa3]), ("pound;", [0xa3]),
  ("pr;", [0x227a]), ("prE;", [0x2ab3]), ("prap;", [0x2ab7]), ("prcue;", [0x227c]),
  ("pre;", [0x2aaf]), ("prec;", [0x227a]), ("precapprox;", [0x2ab7]), ("preccurlyeq;", [0x227c]),
  ("preceq;", [0x2aaf]), ("precnapprox;", [0x2ab9]), ("precneqq;", [0x2ab5]),
  ("precnsim;", [0x22e8]), ("precsim;", [0x227e]), ("prime;", [0x2032]), ("primes;", [0x2119]),
  ("prnE;", [0x2ab5]), ("prnap;", [0x2ab9]), ("prnsim;", [0x22e8]), ("prod;", [0x220f]),
  ("profalar;", [0x232e]), ("profline;", [0x2312]), ("profsurf;", [0x2313]), ("prop;", [0x221d]),
  ("propto;", [0x221d]), ("prsim;", [0x227e]), ("prurel;", [0x22b0]), ("pscr;", [0x1d4c5]),
  ("psi;", [0x3c8]), ("puncsp;", [0x2008])]

def lowerQ : List (String × List Nat) := [
  ("qfr;", [0x1d52e]), ("qint;", [0x2a0c]), ("qopf;", [0x1d562]), ("qprime;", [0x2057]),
  ("qscr;", [0x1d4c6]), ("quaternions;", [0x210d]), ("quatint;", [0x2a16]), ("quest;", [0x3f]),
  ("questeq;", [0x225f]), ("quot", [0x22]), ("quot;", [0x22])]

def lowerR : List (String × List Nat) := [
  ("rAarr;", [0x21db]), ("rArr;", [0x21d2]), ("rAtail;", [0x291c]), ("rBarr;", [0x290f]),
  ("rHar;", [0x2964]), ("race;", [0x223d, 0x331]), ("racute;", [0x155]), ("radic;", [0x221a]),
  ("raemptyv;", [0x29b3]), ("rang;", [0x27e9]), ("rangd;", [0x2992]), ("range;", [0x29a5]),
  ("rangle;", [0x27e9]), ("raquo", [0xbb]), ("raquo;", [0xbb]), ("rarr;", [0x2192]),
  ("rarrap;", [0x2975]), ("rarrb;", [0x21e5]), ("rarrbfs;", [0x2920]), ("rarrc;", [0x2933]),
  ("rarrfs;", [0x291e]), ("rarrhk;", [0x21aa]), ("rarrlp;", [0x21ac]), ("rarrpl;", [0x2945]),
  ("rarrsim;", [0x2974]), ("rarrtl;", [0x21a3]), ("rarrw;", [0x219d]), ("ratail;", [0x291a]),
  ("ratio;", [0x2236]), ("rationals;", [0x211a]), ("rbarr;", [0x290d]), ("rbbrk;", [0x2773]),
  ("rbrace;", [0x7d]), ("rbrack;", [0x5d]), ("rbrke;", [0x298c]), ("rbrksld;", [0x298e]),
  ("rbrkslu;", [0x2990]), ("rcaron;", [0x159]), ("rcedil;", [0x157]), ("rceil;", [0x2309]),
  ("rcub;", [0x7d]), ("rcy;", [0x440]), ("rdca;", [0x2937]), ("rdldhar;", [0x2969]),
  ("rdquo;", [0x201d]), ("rdquor;", [0x201d]), ("rdsh;", [0x21b3]), ("real;", [0x211c]),
  ("realine;", [0x211b]), ("realpart;", [0x211c]), ("reals;", [0x211d]), ("rect;", [0x25ad]),
  ("reg", [0xae]), ("reg;", [0xae]), ("rfisht;", [0x297d]), ("rfloor;", [0x230b]),
  ("rfr;", [0x1d52f]), ("rhard;", [0x21c1]), ("rharu;", [0x21c0]), ("rharul;", [0x296c]),
  ("rho;", [0x3c1]), ("rhov;", [0x3f1]), ("rightarrow;", [0x2192]),
  ("rightarrowtail;", [0x21a3]), ("rightharpoondown;", [0x21c1]), ("rightharpoonup;", [0x21c0]),
  ("rightleftarrows;", [0x21c4]), ("rightleftharpoons;", [0x21cc]),
  ("rightrightarrows;", [0x21c9]), ("rightsquigarrow;", [0x219d]),
  ("rightthreetimes;", [0x22cc]), ("ring;", [0x2da]), ("risingdotseq;", [0x2253]),
  ("rlarr;", [0x21c4]), ("rlhar;", [0x21cc]), ("rlm;", [0x200f]), ("rmoust;", [0x23b1]),
  ("rmoustache;", [0x23b1]), ("rnmid;", [0x2aee]), ("roang;", [0x27ed]), ("roarr;", [0x21fe]),
  ("robrk;", [0x27e7]), ("ropar;", [0x2986]), ("ropf;", [0x1d563]), ("roplus;", [0x2a2e]),
  ("rotimes;", [0x2a35]), ("rpar;", [0x29]), ("rpargt;", [0x2994]), ("rppolint;", [0x2a12]),
  ("rrarr;", [0x21c9]), ("rsaquo;", [0x203a]), ("rscr;", [0x1d4c7]), ("rsh;", [0x21b1]),
  ("rsqb;", [0x5d]), ("rsquo;", [0x2019]), ("rsquor;", [0x2019]), ("rthree;", [0x22cc]),
  ("rtimes;", [0x22ca]), ("rtri;", [0x25b9]), ("rtrie;", [0x22b5]), ("rtrif;", [0x25b8]),
  ("rtriltri;", [0x29ce]), ("ruluhar;", [0x2968]), ("rx;", [0x211e])]

def lowerS : List (String × List Nat) := [
  ("sacute;", [0x15b]), ("sbquo;", [0x201a]), ("sc;", [0x227b]), ("scE;", [0x2ab4]),
  ("scap;", [0x2ab8]), ("scaron;", [0x161]), ("sccue;", [0x227d]), ("sce;", [0x2ab0]),
  ("scedil;", [0x15f]), ("scirc;", [0x15d]), ("scnE;", [0x2ab6]), ("scnap;", [0x2aba]),
  ("scnsim;", [0x22e9]), ("scpolint;", [0x2a13]), ("scsim;", [0x227f]), ("scy;", [0x441]),
  ("sdot;", [0x22c5]), ("sdotb;", [0x22a1]), ("sdote;", [0x2a66]), ("seArr;", [0x21d8]),
  ("searhk;", [0x2925]), ("searr;", [0x2198]), ("searrow;", [0x2198]), ("sect", [0xa7]),
  ("sect;", [0xa7]), ("semi;", [0x3b]), ("seswar;", [0x2929]), ("setminus;", [0x2216]),
  ("setmn;", [0x2216]), ("sext;", [0x2736]), ("sfr;", [0x1d530]), ("sfrown;", [0x2322]),
  ("sharp;", [0x266f]), ("shchcy;", [0x449]), ("shcy;", [0x448]), ("shortmid;", [0x2223]),
  ("shortparallel;", [0x2225]), ("shy", [0xad]), ("shy;", [0xad]), ("sigma;", [0x3c3]),
  ("sigmaf;", [0x3c2]), ("sigmav;", [0x3c2]), ("sim;", [0x223c]), ("simdot;", [0x2a6a]),
  ("sime;", [0x2243]), ("simeq;", [0x2243]), ("simg;", [0x2a9e]), ("simgE;", [0x2aa0]),
  ("siml;", [0x2a9d]), ("simlE;", [0x2a9f]), ("simne;", [0x2246]), ("simplus;", [0x2a24]),
  ("simrarr;", [0x2972]), ("slarr;", [0x2190]), ("smallsetminus;", [0x2216]),
  ("smashp;", [0x2a33]), ("smeparsl;", [0x29e4]), ("smid;", [0x2223]), ("smile;", [0x2323]),
  ("smt;", [0x2aaa]), ("smte;", [0x2aac]), ("smtes;", [0x2aac, 0xfe00]), ("softcy;", [0x44c]),
  ("sol;", [0x2f]), ("solb;", [0x29c4]), ("solbar;", [0x233f]), ("sopf;", [0x1d564]),
  ("spades;", [0x2660]), ("spadesuit;", [0x2660]), ("spar;", [0x2225]), ("sqcap;", [0x2293]),
  ("sqcaps;", [0x2293, 0xfe00]), ("sqcup;", [0x2294]), ("sqcups;", [0x2294, 0xfe00]),
  ("sqsub;", [0x228f]), ("sqsube;", [0x2291]), ("sqsubset;", [0x228f]),
  ("sqsubseteq;", [0x2291]), ("sqsup;", [0x2290]), ("sqsupe;", [0x2292]),
  ("sqsupset;", [0x2290]), ("sqsupseteq;", [0x2292]), ("squ;", [0x25a1]), ("square;", [0x25a1]),
  ("squarf;", [0x25aa]), ("squf;", [0x25aa]), ("srarr;", [0x2192]), ("sscr;", [0x1d4c8]),
  ("ssetmn;", [0x2216]), ("ssmile;", [0x2323]), ("sstarf;", [0x22c6]), ("star;", [0x2606]),
  ("starf;", [0x2605]), ("straightepsilon;", [0x3f5]), ("straightphi;", [0x3d5]),
  ("strns;", [0xaf]), ("sub;", [0x2282]), ("subE;", [0x2ac5]), ("subdot;", [0x2abd]),
  ("sube;", [0x2286]), ("subedot;", [0x2ac3]), ("submult;", [0x2ac1]), ("subnE;", [0x2acb]),
  ("subne;", [0x228a]), ("subplus;", [0x2abf]), ("subrarr;", [0x2979]), ("subset;", [0x2282]),
  ("subseteq;", [0x2286]), ("subseteqq;", [0x2ac5]), ("subsetneq;", [0x228a]),
  ("subsetneqq;", [0x2acb]), ("subsim;", [0x2ac7]), ("subsub;", [0x2ad5]), ("subsup;", [0x2ad3]),
  ("succ;", [0x227b]), ("succapprox;", [0x2ab8]), ("succcurlyeq;", [0x227d]),
  ("succeq;", [0x2ab0]), ("succnapprox;", [0x2aba]), ("succneqq;", [0x2ab6]),
  ("succnsim;", [0x22e9]), ("succsim;", [0x227f]), ("sum;", [0x2211]), ("sung;", [0x266a]),
  ("sup1", [0xb9]), ("sup1;", [0xb9]), ("sup2", [0xb2]), ("sup2;", [0xb2]), ("sup3", [0xb3]),
  ("sup3;", [0xb3]), ("sup;", [0x2283]), ("supE;", [0x2ac6]), ("supdot;", [0x2abe]),
  ("supdsub;", [0x2ad8]), ("supe;", [0x2287]), ("supedot;", [0x2ac4]), ("suphsol;", [0x27c9]),
  ("suphsub;", [0x2ad7]), ("suplarr;", [0x297b]), ("supmult;", [0x2ac2]), ("supnE;", [0x2acc]),
  ("supne;", [0x228b]), ("supplus;", [0x2ac0]), ("supset;", [0x2283]), ("supseteq;", [0x2287]),
  ("supseteqq;", [0x2ac6]), ("supsetneq;", [0x228b]), ("supsetneqq;", [0x2acc]),
  ("supsim;", [0x2ac8]), ("supsub;", [0x2ad4]), ("supsup;", [0x2ad6]), ("swArr;", [0x21d9]),
  ("swarhk;", [0x2926]), ("swarr;", [0x2199]), ("swarrow;", [0x2199]), ("swnwar;", [0x292a]),
  ("szlig", [0xdf]), ("szlig;", [0xdf])]

def lowerT : List (String × List Nat) := [
  ("target;", [0x2316]), ("tau;", [0x3c4]), ("tbrk;", [0x23b4]), ("tcaron;", [0x165]),
  ("tcedil;", [0x163]), ("tcy;", [0x442]), ("tdot;", [0x20db]), ("telrec;", [0x2315]),
  ("tfr;", [0x1d531]), ("there4;", [0x2234]), ("therefore;", [0x2234]), ("theta;", [0x3b8]),
  ("thetasym;", [0x3d1]), ("thetav;", [0x3d1]), ("thickapprox;", [0x2248]),
  ("thicksim;", [0x223c]), ("thinsp;", [0x2009]), ("thkap;", [0x2248]), ("thksim;", [0x223c]),
  ("thorn", [0xfe]), ("thorn;", [0xfe]), ("tilde;", [0x2dc]), ("times", [0xd7]),
  ("times;", [0xd7]), ("timesb;", [0x22a0]), ("timesbar;", [0x2a31]), ("timesd;", [0x2a30]),
  ("tint;", [0x222d]), ("toea;", [0x2928]), ("top;", [0x22a4]), ("topbot;", [0x2336]),
  ("topcir;", [0x2af1]), ("topf;", [0x1d565]), ("topfork;", [0x2ada]), ("tosa;", [0x2929]),
  ("tprime;", [0x2034]), ("trade;", [0x2122]), ("triangle;", [0x25b5]),
  ("triangledown;", [0x25bf]), ("triangleleft;", [0x25c3]), ("trianglelefteq;", [0x22b4]),
  ("triangleq;", [0x225c]), ("triangleright;", [0x25b9]), ("trianglerighteq;", [0x22b5]),
  ("tridot;", [0x25ec]), ("trie;", [0x225c]), ("triminus;", [0x2a3a]), ("triplus;", [0x2a39]),
  ("trisb;", [0x29cd]), ("tritime;", [0x2a3b]), ("trpezium;", [0x23e2]), ("tscr;", [0x1d4c9]),
  ("tscy;", [0x446]), ("tshcy;", [0x45b]), ("tstrok;", [0x167]), ("twixt;", [0x226c]),
  ("twoheadleftarrow;", [0x219e]), ("twoheadrightarrow;", [0x21a0])]

def lowerU : List (String × List Nat) := [
  ("uArr;", [0x21d1]), ("uHar;", [0x2963]), ("uacute", [0xfa]), ("uacute;", [0xfa]),
  ("uarr;", [0x2191]), ("ubrcy;", [0x45e]), ("ubreve;", [0x16d]), ("ucirc", [0xfb]),
  ("ucirc;", [0xfb]), ("ucy;", [0x443]), ("udarr;", [0x21c5]), ("udblac;", [0x171]),
  ("udhar;", [0x296e]), ("ufisht;", [0x297e]), ("ufr;", [0x1d532]), ("ugrave", [0xf9]),
  ("ugrave;", [0xf9]), ("uharl;", [0x21bf]), ("uharr;", [0x21be]), ("uhblk;", [0x2580]),
  ("ulcorn;", [0x231c]), ("ulcorner;", [0x231c]), ("ulcrop;", [0x230f]), ("ultri;", [0x25f8]),
  ("umacr;", [0x16b]), ("uml", [0xa8]), ("uml;", [0xa8]), ("uogon;", [0x173]),
  ("uopf;", [0x1d566]), ("uparrow;", [0x2191]), ("updownarrow;", [0x2195]),
  ("upharpoonleft;", [0x21bf]), ("upharpoonright;", [0x21be]), ("uplus;", [0x228e]),
  ("upsi;", [0x3c5]), ("upsih;", [0x3d2]), ("upsilon;", [0x3c5]), ("upuparrows;", [0x21c8]),
  ("urcorn;", [0x231d]), ("urcorner;", [0x231d]), ("urcrop;", [0x230e]), ("uring;", [0x16f]),
  ("urtri;", [0x25f9]), ("uscr;", [0x1d4ca]), ("utdot;", [0x22f0]), ("utilde;", [0x169]),
  ("utri;", [0x25b5]), ("utrif;", [0x25b4]), ("uuarr;", [0x21c8]), ("uuml", [0xfc]),
  ("uuml;", [0xfc]), ("uwangle;", [0x29a7])]

def lowerV : List (String × List Nat) := [
  ("vArr;", [0x21d5]), ("vBar;", [0x2ae8]), ("vBarv;", [0x2ae9]), ("vDash;", [0x22a8]),
  ("vangrt;", [0x299c]), ("varepsilon;", [0x3f5]), ("varkappa;", [0x3f0]),
  ("varnothing;", [0x2205]), ("varphi;", [0x3d5]), ("varpi;", [0x3d6]), ("varpropto;", [0x221d]),
  ("varr;", [0x2195]), ("varrho;", [0x3f1]), ("varsigma;", [0x3c2]),
  ("varsubsetneq;", [0x228a, 0xfe00]), ("varsubsetneqq;", [0x2acb, 0xfe00]),
  ("varsupsetneq;", [0x228b, 0xfe00]), ("varsupsetneqq;", [0x2acc, 0xfe00]),
  ("vartheta;", [0x3d1]), ("vartriangleleft;", [0x22b2]), ("vartriangleright;", [0x22b3]),
  ("vcy;", [0x432]), ("vdash;", [0x22a2]), ("vee;", [0x2228]), ("veebar;", [0x22bb]),
  ("veeeq;", [0x225a]), ("vellip;", [0x22ee]), ("verbar;", [0x7c]), ("vert;", [0x7c]),
  ("vfr;", [0x1d533]), ("vltri;", [0x22b2]), ("vnsub;", [0x2282, 0x20d2]),
  ("vnsup;", [0x2283, 0x20d2]), ("vopf;", [0x1d567]), ("vprop;", [0x221d]), ("vrtri;", [0x22b3]),
  ("vscr;", [0x1d4cb]), ("vsubnE;", [0x2acb, 0xfe00]), ("vsubne;", [0x228a, 0xfe00]),
  ("vsupnE;", [0x2acc, 0xfe00]), ("vsupne;", [0x228b, 0xfe00]), ("vzigzag;", [0x299a])]

def lowerW : List (String × List Nat) := [
  ("wcirc;", [0x175]), ("wedbar;", [0x2a5f]), ("wedge;", [0x2227]), ("wedgeq;", [0x2259]),
  ("weierp;", [0x2118]), ("wfr;", [0x1d534]), ("wopf;", [0x1d568]), ("wp;", [0x2118]),
  ("wr;", [0x2240]), ("wreath;", [0x2240]), ("wscr;", [0x1d4cc])]

def lowerX : List (String × List Nat) := [
  ("xcap;", [0x22c2]), ("xcirc;", [0x25ef]), ("xcup;", [0x22c3]), ("xdtri;", [0x25bd]),
  ("xfr;", [0x1d535]), ("xhArr;", [0x27fa]), ("xharr;", [0x27f7]), ("xi;", [0x3be]),
  ("xlArr;", [0x27f8]), ("xlarr;", [0x27f5]), ("xmap;", [0x27fc]), ("xnis;", [0x22fb]),
  ("xodot;", [0x2a00]), ("xopf;", [0x1d569]), ("xoplus;", [0x2a01]), ("xotime;", [0x2a02]),
  ("xrArr;", [0x27f9]), ("xrarr;", [0x27f6]), ("xscr;", [0x1d4cd]), ("xsqcup;", [0x2a06]),
  ("xuplus;", [0x2a04]), ("xutri;", [0x25b3]), ("xvee;", [0x22c1]), ("xwedge;", [0x22c0])]

def lowerY : List (String × List Nat) := [
  ("yacute", [0xfd]), ("yacute;", [0xfd]), ("yacy;", [0x44f]), ("ycirc;", [0x177]),
  ("ycy;", [0x44b]), ("yen", [0xa5]), ("yen;", [0xa5]), ("yfr;", [0x1d536]), ("yicy;", [0x457]),
  ("yopf;", [0x1d56a]), ("yscr;", [0x1d4ce]), ("yucy;", [0x44e]), ("yuml", [0xff]),
  ("yuml;", [0xff])]

def lowerZ : List (String × List Nat) := [
  ("zacute;", [0x17a]), ("zcaron;", [0x17e]), ("zcy;", [0x437]), ("zdot;", [0x17c]),
  ("zeetrf;", [0x2128]), ("zeta;", [0x3b6]), ("zfr;", [0x1d537]), ("zhcy;", [0x436]),
  ("zigrarr;", [0x21dd]), ("zopf;", [0x1d56b]), ("zscr;", [0x1d4cf]), ("zwj;", [0x200d]),
  ("zwnj;", [0x200c])]

end Highlight.Entity
