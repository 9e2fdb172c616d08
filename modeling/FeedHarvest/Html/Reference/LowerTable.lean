import FeedHarvest.Html.Reference.Group

/-!
# Named references with a lower-case first letter

The part of HTML's table of named character references whose names begin with a lower-case letter,
in the order of the names. A name that is also known without its semicolon stands there twice.
-/

namespace FeedHarvest.Html.Reference

/-- References that begin with `a` to `c`. -/
def lowerAToC : List Group := [
  ⟨'a', 'a', [("cute", "á"), ("cute;", "á")]⟩,
  ⟨'a', 'b', [("reve;", "ă")]⟩,
  ⟨'a', 'c', [(";", "∾"), ("E;", "∾\u0333"), ("d;", "∿"), ("irc", "â"), ("irc;", "â"), ("ute", "´"),
    ("ute;", "´"), ("y;", "а")]⟩,
  ⟨'a', 'e', [("lig", "æ"), ("lig;", "æ")]⟩,
  ⟨'a', 'f', [(";", "\u2061"), ("r;", "𝔞")]⟩,
  ⟨'a', 'g', [("rave", "à"), ("rave;", "à")]⟩,
  ⟨'a', 'l', [("efsym;", "ℵ"), ("eph;", "ℵ"), ("pha;", "α")]⟩,
  ⟨'a', 'm', [("acr;", "ā"), ("alg;", "⨿"), ("p", "&"), ("p;", "&")]⟩,
  ⟨'a', 'n', [("d;", "∧"), ("dand;", "⩕"), ("dd;", "⩜"), ("dslope;", "⩘"), ("dv;", "⩚"),
    ("g;", "∠"), ("ge;", "⦤"), ("gle;", "∠"), ("gmsd;", "∡"), ("gmsdaa;", "⦨"), ("gmsdab;", "⦩"),
    ("gmsdac;", "⦪"), ("gmsdad;", "⦫"), ("gmsdae;", "⦬"), ("gmsdaf;", "⦭"), ("gmsdag;", "⦮"),
    ("gmsdah;", "⦯"), ("grt;", "∟"), ("grtvb;", "⊾"), ("grtvbd;", "⦝"), ("gsph;", "∢"),
    ("gst;", "Å"), ("gzarr;", "⍼")]⟩,
  ⟨'a', 'o', [("gon;", "ą"), ("pf;", "𝕒")]⟩,
  ⟨'a', 'p', [(";", "≈"), ("E;", "⩰"), ("acir;", "⩯"), ("e;", "≊"), ("id;", "≋"), ("os;", "'"),
    ("prox;", "≈"), ("proxeq;", "≊")]⟩,
  ⟨'a', 'r', [("ing", "å"), ("ing;", "å")]⟩,
  ⟨'a', 's', [("cr;", "𝒶"), ("t;", "*"), ("ymp;", "≈"), ("ympeq;", "≍")]⟩,
  ⟨'a', 't', [("ilde", "ã"), ("ilde;", "ã")]⟩,
  ⟨'a', 'u', [("ml", "ä"), ("ml;", "ä")]⟩,
  ⟨'a', 'w', [("conint;", "∳"), ("int;", "⨑")]⟩,
  ⟨'b', 'N', [("ot;", "⫭")]⟩,
  ⟨'b', 'a', [("ckcong;", "≌"), ("ckepsilon;", "϶"), ("ckprime;", "‵"), ("cksim;", "∽"),
    ("cksimeq;", "⋍"), ("rvee;", "⊽"), ("rwed;", "⌅"), ("rwedge;", "⌅")]⟩,
  ⟨'b', 'b', [("rk;", "⎵"), ("rktbrk;", "⎶")]⟩,
  ⟨'b', 'c', [("ong;", "≌"), ("y;", "б")]⟩,
  ⟨'b', 'd', [("quo;", "„")]⟩,
  ⟨'b', 'e', [("caus;", "∵"), ("cause;", "∵"), ("mptyv;", "⦰"), ("psi;", "϶"), ("rnou;", "ℬ"),
    ("ta;", "β"), ("th;", "ℶ"), ("tween;", "≬")]⟩,
  ⟨'b', 'f', [("r;", "𝔟")]⟩,
  ⟨'b', 'i', [("gcap;", "⋂"), ("gcirc;", "◯"), ("gcup;", "⋃"), ("godot;", "⨀"), ("goplus;", "⨁"),
    ("gotimes;", "⨂"), ("gsqcup;", "⨆"), ("gstar;", "★"), ("gtriangledown;", "▽"),
    ("gtriangleup;", "△"), ("guplus;", "⨄"), ("gvee;", "⋁"), ("gwedge;", "⋀")]⟩,
  ⟨'b', 'k', [("arow;", "⤍")]⟩,
  ⟨'b', 'l', [("acklozenge;", "⧫"), ("acksquare;", "▪"), ("acktriangle;", "▴"),
    ("acktriangledown;", "▾"), ("acktriangleleft;", "◂"), ("acktriangleright;", "▸"), ("ank;", "␣"),
    ("k12;", "▒"), ("k14;", "░"), ("k34;", "▓"), ("ock;", "█")]⟩,
  ⟨'b', 'n', [("e;", "=\u20e5"), ("equiv;", "≡\u20e5"), ("ot;", "⌐")]⟩,
  ⟨'b', 'o', [("pf;", "𝕓"), ("t;", "⊥"), ("ttom;", "⊥"), ("wtie;", "⋈"), ("xDL;", "╗"),
    ("xDR;", "╔"), ("xDl;", "╖"), ("xDr;", "╓"), ("xH;", "═"), ("xHD;", "╦"), ("xHU;", "╩"),
    ("xHd;", "╤"), ("xHu;", "╧"), ("xUL;", "╝"), ("xUR;", "╚"), ("xUl;", "╜"), ("xUr;", "╙"),
    ("xV;", "║"), ("xVH;", "╬"), ("xVL;", "╣"), ("xVR;", "╠"), ("xVh;", "╫"), ("xVl;", "╢"),
    ("xVr;", "╟"), ("xbox;", "⧉"), ("xdL;", "╕"), ("xdR;", "╒"), ("xdl;", "┐"), ("xdr;", "┌"),
    ("xh;", "─"), ("xhD;", "╥"), ("xhU;", "╨"), ("xhd;", "┬"), ("xhu;", "┴"), ("xminus;", "⊟"),
    ("xplus;", "⊞"), ("xtimes;", "⊠"), ("xuL;", "╛"), ("xuR;", "╘"), ("xul;", "┘"), ("xur;", "└"),
    ("xv;", "│"), ("xvH;", "╪"), ("xvL;", "╡"), ("xvR;", "╞"), ("xvh;", "┼"), ("xvl;", "┤"),
    ("xvr;", "├")]⟩,
  ⟨'b', 'p', [("rime;", "‵")]⟩,
  ⟨'b', 'r', [("eve;", "˘"), ("vbar", "¦"), ("vbar;", "¦")]⟩,
  ⟨'b', 's', [("cr;", "𝒷"), ("emi;", "⁏"), ("im;", "∽"), ("ime;", "⋍"), ("ol;", "\\"),
    ("olb;", "⧅"), ("olhsub;", "⟈")]⟩,
  ⟨'b', 'u', [("ll;", "•"), ("llet;", "•"), ("mp;", "≎"), ("mpE;", "⪮"), ("mpe;", "≏"),
    ("mpeq;", "≏")]⟩,
  ⟨'c', 'a', [("cute;", "ć"), ("p;", "∩"), ("pand;", "⩄"), ("pbrcup;", "⩉"), ("pcap;", "⩋"),
    ("pcup;", "⩇"), ("pdot;", "⩀"), ("ps;", "∩\ufe00"), ("ret;", "⁁"), ("ron;", "ˇ")]⟩,
  ⟨'c', 'c', [("aps;", "⩍"), ("aron;", "č"), ("edil", "ç"), ("edil;", "ç"), ("irc;", "ĉ"),
    ("ups;", "⩌"), ("upssm;", "⩐")]⟩,
  ⟨'c', 'd', [("ot;", "ċ")]⟩,
  ⟨'c', 'e', [("dil", "¸"), ("dil;", "¸"), ("mptyv;", "⦲"), ("nt", "¢"), ("nt;", "¢"),
    ("nterdot;", "·")]⟩,
  ⟨'c', 'f', [("r;", "𝔠")]⟩,
  ⟨'c', 'h', [("cy;", "ч"), ("eck;", "✓"), ("eckmark;", "✓"), ("i;", "χ")]⟩,
  ⟨'c', 'i', [("r;", "○"), ("rE;", "⧃"), ("rc;", "ˆ"), ("rceq;", "≗"), ("rclearrowleft;", "↺"),
    ("rclearrowright;", "↻"), ("rcledR;", "®"), ("rcledS;", "Ⓢ"), ("rcledast;", "⊛"),
    ("rcledcirc;", "⊚"), ("rcleddash;", "⊝"), ("re;", "≗"), ("rfnint;", "⨐"), ("rmid;", "⫯"),
    ("rscir;", "⧂")]⟩,
  ⟨'c', 'l', [("ubs;", "♣"), ("ubsuit;", "♣")]⟩,
  ⟨'c', 'o', [("lon;", ":"), ("lone;", "≔"), ("loneq;", "≔"), ("mma;", ","), ("mmat;", "@"),
    ("mp;", "∁"), ("mpfn;", "∘"), ("mplement;", "∁"), ("mplexes;", "ℂ"), ("ng;", "≅"),
    ("ngdot;", "⩭"), ("nint;", "∮"), ("pf;", "𝕔"), ("prod;", "∐"), ("py", "©"), ("py;", "©"),
    ("pysr;", "℗")]⟩,
  ⟨'c', 'r', [("arr;", "↵"), ("oss;", "✗")]⟩,
  ⟨'c', 's', [("cr;", "𝒸"), ("ub;", "⫏"), ("ube;", "⫑"), ("up;", "⫐"), ("upe;", "⫒")]⟩,
  ⟨'c', 't', [("dot;", "⋯")]⟩,
  ⟨'c', 'u', [("darrl;", "⤸"), ("darrr;", "⤵"), ("epr;", "⋞"), ("esc;", "⋟"), ("larr;", "↶"),
    ("larrp;", "⤽"), ("p;", "∪"), ("pbrcap;", "⩈"), ("pcap;", "⩆"), ("pcup;", "⩊"), ("pdot;", "⊍"),
    ("por;", "⩅"), ("ps;", "∪\ufe00"), ("rarr;", "↷"), ("rarrm;", "⤼"), ("rlyeqprec;", "⋞"),
    ("rlyeqsucc;", "⋟"), ("rlyvee;", "⋎"), ("rlywedge;", "⋏"), ("rren", "¤"), ("rren;", "¤"),
    ("rvearrowleft;", "↶"), ("rvearrowright;", "↷"), ("vee;", "⋎"), ("wed;", "⋏")]⟩,
  ⟨'c', 'w', [("conint;", "∲"), ("int;", "∱")]⟩,
  ⟨'c', 'y', [("lcty;", "⌭")]⟩]

/-- References that begin with `d` to `j`. -/
def lowerDToJ : List Group := [
  ⟨'d', 'A', [("rr;", "⇓")]⟩,
  ⟨'d', 'H', [("ar;", "⥥")]⟩,
  ⟨'d', 'a', [("gger;", "†"), ("leth;", "ℸ"), ("rr;", "↓"), ("sh;", "‐"), ("shv;", "⊣")]⟩,
  ⟨'d', 'b', [("karow;", "⤏"), ("lac;", "˝")]⟩,
  ⟨'d', 'c', [("aron;", "ď"), ("y;", "д")]⟩,
  ⟨'d', 'd', [(";", "ⅆ"), ("agger;", "‡"), ("arr;", "⇊"), ("otseq;", "⩷")]⟩,
  ⟨'d', 'e', [("g", "°"), ("g;", "°"), ("lta;", "δ"), ("mptyv;", "⦱")]⟩,
  ⟨'d', 'f', [("isht;", "⥿"), ("r;", "𝔡")]⟩,
  ⟨'d', 'h', [("arl;", "⇃"), ("arr;", "⇂")]⟩,
  ⟨'d', 'i', [("am;", "⋄"), ("amond;", "⋄"), ("amondsuit;", "♦"), ("ams;", "♦"), ("e;", "¨"),
    ("gamma;", "ϝ"), ("sin;", "⋲"), ("v;", "÷"), ("vide", "÷"), ("vide;", "÷"),
    ("videontimes;", "⋇"), ("vonx;", "⋇")]⟩,
  ⟨'d', 'j', [("cy;", "ђ")]⟩,
  ⟨'d', 'l', [("corn;", "⌞"), ("crop;", "⌍")]⟩,
  ⟨'d', 'o', [("llar;", "$"), ("pf;", "𝕕"), ("t;", "˙"), ("teq;", "≐"), ("teqdot;", "≑"),
    ("tminus;", "∸"), ("tplus;", "∔"), ("tsquare;", "⊡"), ("ublebarwedge;", "⌆"), ("wnarrow;", "↓"),
    ("wndownarrows;", "⇊"), ("wnharpoonleft;", "⇃"), ("wnharpoonright;", "⇂")]⟩,
  ⟨'d', 'r', [("bkarow;", "⤐"), ("corn;", "⌟"), ("crop;", "⌌")]⟩,
  ⟨'d', 's', [("cr;", "𝒹"), ("cy;", "ѕ"), ("ol;", "⧶"), ("trok;", "đ")]⟩,
  ⟨'d', 't', [("dot;", "⋱"), ("ri;", "▿"), ("rif;", "▾")]⟩,
  ⟨'d', 'u', [("arr;", "⇵"), ("har;", "⥯")]⟩,
  ⟨'d', 'w', [("angle;", "⦦")]⟩,
  ⟨'d', 'z', [("cy;", "џ"), ("igrarr;", "⟿")]⟩,
  ⟨'e', 'D', [("Dot;", "⩷"), ("ot;", "≑")]⟩,
  ⟨'e', 'a', [("cute", "é"), ("cute;", "é"), ("ster;", "⩮")]⟩,
  ⟨'e', 'c', [("aron;", "ě"), ("ir;", "≖"), ("irc", "ê"), ("irc;", "ê"), ("olon;", "≕"),
    ("y;", "э")]⟩,
  ⟨'e', 'd', [("ot;", "ė")]⟩,
  ⟨'e', 'e', [(";", "ⅇ")]⟩,
  ⟨'e', 'f', [("Dot;", "≒"), ("r;", "𝔢")]⟩,
  ⟨'e', 'g', [(";", "⪚"), ("rave", "è"), ("rave;", "è"), ("s;", "⪖"), ("sdot;", "⪘")]⟩,
  ⟨'e', 'l', [(";", "⪙"), ("inters;", "⏧"), ("l;", "ℓ"), ("s;", "⪕"), ("sdot;", "⪗")]⟩,
  ⟨'e', 'm', [("acr;", "ē"), ("pty;", "∅"), ("ptyset;", "∅"), ("ptyv;", "∅"), ("sp13;", "\u2004"),
    ("sp14;", "\u2005"), ("sp;", "\u2003")]⟩,
  ⟨'e', 'n', [("g;", "ŋ"), ("sp;", "\u2002")]⟩,
  ⟨'e', 'o', [("gon;", "ę"), ("pf;", "𝕖")]⟩,
  ⟨'e', 'p', [("ar;", "⋕"), ("arsl;", "⧣"), ("lus;", "⩱"), ("si;", "ε"), ("silon;", "ε"),
    ("siv;", "ϵ")]⟩,
  ⟨'e', 'q', [("circ;", "≖"), ("colon;", "≕"), ("sim;", "≂"), ("slantgtr;", "⪖"),
    ("slantless;", "⪕"), ("uals;", "="), ("uest;", "≟"), ("uiv;", "≡"), ("uivDD;", "⩸"),
    ("vparsl;", "⧥")]⟩,
  ⟨'e', 'r', [("Dot;", "≓"), ("arr;", "⥱")]⟩,
  ⟨'e', 's', [("cr;", "ℯ"), ("dot;", "≐"), ("im;", "≂")]⟩,
  ⟨'e', 't', [("a;", "η"), ("h", "ð"), ("h;", "ð")]⟩,
  ⟨'e', 'u', [("ml", "ë"), ("ml;", "ë"), ("ro;", "€")]⟩,
  ⟨'e', 'x', [("cl;", "!"), ("ist;", "∃"), ("pectation;", "ℰ"), ("ponentiale;", "ⅇ")]⟩,
  ⟨'f', 'a', [("llingdotseq;", "≒")]⟩,
  ⟨'f', 'c', [("y;", "ф")]⟩,
  ⟨'f', 'e', [("male;", "♀")]⟩,
  ⟨'f', 'f', [("ilig;", "ﬃ"), ("lig;", "ﬀ"), ("llig;", "ﬄ"), ("r;", "𝔣")]⟩,
  ⟨'f', 'i', [("lig;", "ﬁ")]⟩,
  ⟨'f', 'j', [("lig;", "fj")]⟩,
  ⟨'f', 'l', [("at;", "♭"), ("lig;", "ﬂ"), ("tns;", "▱")]⟩,
  ⟨'f', 'n', [("of;", "ƒ")]⟩,
  ⟨'f', 'o', [("pf;", "𝕗"), ("rall;", "∀"), ("rk;", "⋔"), ("rkv;", "⫙")]⟩,
  ⟨'f', 'p', [("artint;", "⨍")]⟩,
  ⟨'f', 'r', [("ac12", "½"), ("ac12;", "½"), ("ac13;", "⅓"), ("ac14", "¼"), ("ac14;", "¼"),
    ("ac15;", "⅕"), ("ac16;", "⅙"), ("ac18;", "⅛"), ("ac23;", "⅔"), ("ac25;", "⅖"), ("ac34", "¾"),
    ("ac34;", "¾"), ("ac35;", "⅗"), ("ac38;", "⅜"), ("ac45;", "⅘"), ("ac56;", "⅚"), ("ac58;", "⅝"),
    ("ac78;", "⅞"), ("asl;", "⁄"), ("own;", "⌢")]⟩,
  ⟨'f', 's', [("cr;", "𝒻")]⟩,
  ⟨'g', 'E', [(";", "≧"), ("l;", "⪌")]⟩,
  ⟨'g', 'a', [("cute;", "ǵ"), ("mma;", "γ"), ("mmad;", "ϝ"), ("p;", "⪆")]⟩,
  ⟨'g', 'b', [("reve;", "ğ")]⟩,
  ⟨'g', 'c', [("irc;", "ĝ"), ("y;", "г")]⟩,
  ⟨'g', 'd', [("ot;", "ġ")]⟩,
  ⟨'g', 'e', [(";", "≥"), ("l;", "⋛"), ("q;", "≥"), ("qq;", "≧"), ("qslant;", "⩾"), ("s;", "⩾"),
    ("scc;", "⪩"), ("sdot;", "⪀"), ("sdoto;", "⪂"), ("sdotol;", "⪄"), ("sl;", "⋛\ufe00"),
    ("sles;", "⪔")]⟩,
  ⟨'g', 'f', [("r;", "𝔤")]⟩,
  ⟨'g', 'g', [(";", "≫"), ("g;", "⋙")]⟩,
  ⟨'g', 'i', [("mel;", "ℷ")]⟩,
  ⟨'g', 'j', [("cy;", "ѓ")]⟩,
  ⟨'g', 'l', [(";", "≷"), ("E;", "⪒"), ("a;", "⪥"), ("j;", "⪤")]⟩,
  ⟨'g', 'n', [("E;", "≩"), ("ap;", "⪊"), ("approx;", "⪊"), ("e;", "⪈"), ("eq;", "⪈"), ("eqq;", "≩"),
    ("sim;", "⋧")]⟩,
  ⟨'g', 'o', [("pf;", "𝕘")]⟩,
  ⟨'g', 'r', [("ave;", "\x60")]⟩,
  ⟨'g', 's', [("cr;", "ℊ"), ("im;", "≳"), ("ime;", "⪎"), ("iml;", "⪐")]⟩,
  ⟨'g', 't', [("", ">"), (";", ">"), ("cc;", "⪧"), ("cir;", "⩺"), ("dot;", "⋗"), ("lPar;", "⦕"),
    ("quest;", "⩼"), ("rapprox;", "⪆"), ("rarr;", "⥸"), ("rdot;", "⋗"), ("reqless;", "⋛"),
    ("reqqless;", "⪌"), ("rless;", "≷"), ("rsim;", "≳")]⟩,
  ⟨'g', 'v', [("ertneqq;", "≩\ufe00"), ("nE;", "≩\ufe00")]⟩,
  ⟨'h', 'A', [("rr;", "⇔")]⟩,
  ⟨'h', 'a', [("irsp;", "\u200a"), ("lf;", "½"), ("milt;", "ℋ"), ("rdcy;", "ъ"), ("rr;", "↔"),
    ("rrcir;", "⥈"), ("rrw;", "↭")]⟩,
  ⟨'h', 'b', [("ar;", "ℏ")]⟩,
  ⟨'h', 'c', [("irc;", "ĥ")]⟩,
  ⟨'h', 'e', [("arts;", "♥"), ("artsuit;", "♥"), ("llip;", "…"), ("rcon;", "⊹")]⟩,
  ⟨'h', 'f', [("r;", "𝔥")]⟩,
  ⟨'h', 'k', [("searow;", "⤥"), ("swarow;", "⤦")]⟩,
  ⟨'h', 'o', [("arr;", "⇿"), ("mtht;", "∻"), ("okleftarrow;", "↩"), ("okrightarrow;", "↪"),
    ("pf;", "𝕙"), ("rbar;", "―")]⟩,
  ⟨'h', 's', [("cr;", "𝒽"), ("lash;", "ℏ"), ("trok;", "ħ")]⟩,
  ⟨'h', 'y', [("bull;", "⁃"), ("phen;", "‐")]⟩,
  ⟨'i', 'a', [("cute", "í"), ("cute;", "í")]⟩,
  ⟨'i', 'c', [(";", "\u2063"), ("irc", "î"), ("irc;", "î"), ("y;", "и")]⟩,
  ⟨'i', 'e', [("cy;", "е"), ("xcl", "¡"), ("xcl;", "¡")]⟩,
  ⟨'i', 'f', [("f;", "⇔"), ("r;", "𝔦")]⟩,
  ⟨'i', 'g', [("rave", "ì"), ("rave;", "ì")]⟩,
  ⟨'i', 'i', [(";", "ⅈ"), ("iint;", "⨌"), ("int;", "∭"), ("nfin;", "⧜"), ("ota;", "℩")]⟩,
  ⟨'i', 'j', [("lig;", "ĳ")]⟩,
  ⟨'i', 'm', [("acr;", "ī"), ("age;", "ℑ"), ("agline;", "ℐ"), ("agpart;", "ℑ"), ("ath;", "ı"),
    ("of;", "⊷"), ("ped;", "Ƶ")]⟩,
  ⟨'i', 'n', [(";", "∈"), ("care;", "℅"), ("fin;", "∞"), ("fintie;", "⧝"), ("odot;", "ı"),
    ("t;", "∫"), ("tcal;", "⊺"), ("tegers;", "ℤ"), ("tercal;", "⊺"), ("tlarhk;", "⨗"),
    ("tprod;", "⨼")]⟩,
  ⟨'i', 'o', [("cy;", "ё"), ("gon;", "į"), ("pf;", "𝕚"), ("ta;", "ι")]⟩,
  ⟨'i', 'p', [("rod;", "⨼")]⟩,
  ⟨'i', 'q', [("uest", "¿"), ("uest;", "¿")]⟩,
  ⟨'i', 's', [("cr;", "𝒾"), ("in;", "∈"), ("inE;", "⋹"), ("indot;", "⋵"), ("ins;", "⋴"),
    ("insv;", "⋳"), ("inv;", "∈")]⟩,
  ⟨'i', 't', [(";", "\u2062"), ("ilde;", "ĩ")]⟩,
  ⟨'i', 'u', [("kcy;", "і"), ("ml", "ï"), ("ml;", "ï")]⟩,
  ⟨'j', 'c', [("irc;", "ĵ"), ("y;", "й")]⟩,
  ⟨'j', 'f', [("r;", "𝔧")]⟩,
  ⟨'j', 'm', [("ath;", "ȷ")]⟩,
  ⟨'j', 'o', [("pf;", "𝕛")]⟩,
  ⟨'j', 's', [("cr;", "𝒿"), ("ercy;", "ј")]⟩,
  ⟨'j', 'u', [("kcy;", "є")]⟩]

/-- References that begin with `k` to `m`. -/
def lowerKToM : List Group := [
  ⟨'k', 'a', [("ppa;", "κ"), ("ppav;", "ϰ")]⟩,
  ⟨'k', 'c', [("edil;", "ķ"), ("y;", "к")]⟩,
  ⟨'k', 'f', [("r;", "𝔨")]⟩,
  ⟨'k', 'g', [("reen;", "ĸ")]⟩,
  ⟨'k', 'h', [("cy;", "х")]⟩,
  ⟨'k', 'j', [("cy;", "ќ")]⟩,
  ⟨'k', 'o', [("pf;", "𝕜")]⟩,
  ⟨'k', 's', [("cr;", "𝓀")]⟩,
  ⟨'l', 'A', [("arr;", "⇚"), ("rr;", "⇐"), ("tail;", "⤛")]⟩,
  ⟨'l', 'B', [("arr;", "⤎")]⟩,
  ⟨'l', 'E', [(";", "≦"), ("g;", "⪋")]⟩,
  ⟨'l', 'H', [("ar;", "⥢")]⟩,
  ⟨'l', 'a', [("cute;", "ĺ"), ("emptyv;", "⦴"), ("gran;", "ℒ"), ("mbda;", "λ"), ("ng;", "⟨"),
    ("ngd;", "⦑"), ("ngle;", "⟨"), ("p;", "⪅"), ("quo", "«"), ("quo;", "«"), ("rr;", "←"),
    ("rrb;", "⇤"), ("rrbfs;", "⤟"), ("rrfs;", "⤝"), ("rrhk;", "↩"), ("rrlp;", "↫"), ("rrpl;", "⤹"),
    ("rrsim;", "⥳"), ("rrtl;", "↢"), ("t;", "⪫"), ("tail;", "⤙"), ("te;", "⪭"),
    ("tes;", "⪭\ufe00")]⟩,
  ⟨'l', 'b', [("arr;", "⤌"), ("brk;", "❲"), ("race;", "\x7b"), ("rack;", "["), ("rke;", "⦋"),
    ("rksld;", "⦏"), ("rkslu;", "⦍")]⟩,
  ⟨'l', 'c', [("aron;", "ľ"), ("edil;", "ļ"), ("eil;", "⌈"), ("ub;", "\x7b"), ("y;", "л")]⟩,
  ⟨'l', 'd', [("ca;", "⤶"), ("quo;", "“"), ("quor;", "„"), ("rdhar;", "⥧"), ("rushar;", "⥋"),
    ("sh;", "↲")]⟩,
  ⟨'l', 'e', [(";", "≤"), ("ftarrow;", "←"), ("ftarrowtail;", "↢"), ("ftharpoondown;", "↽"),
    ("ftharpoonup;", "↼"), ("ftleftarrows;", "⇇"), ("ftrightarrow;", "↔"), ("ftrightarrows;", "⇆"),
    ("ftrightharpoons;", "⇋"), ("ftrightsquigarrow;", "↭"), ("ftthreetimes;", "⋋"), ("g;", "⋚"),
    ("q;", "≤"), ("qq;", "≦"), ("qslant;", "⩽"), ("s;", "⩽"), ("scc;", "⪨"), ("sdot;", "⩿"),
    ("sdoto;", "⪁"), ("sdotor;", "⪃"), ("sg;", "⋚\ufe00"), ("sges;", "⪓"), ("ssapprox;", "⪅"),
    ("ssdot;", "⋖"), ("sseqgtr;", "⋚"), ("sseqqgtr;", "⪋"), ("ssgtr;", "≶"), ("sssim;", "≲")]⟩,
  ⟨'l', 'f', [("isht;", "⥼"), ("loor;", "⌊"), ("r;", "𝔩")]⟩,
  ⟨'l', 'g', [(";", "≶"), ("E;", "⪑")]⟩,
  ⟨'l', 'h', [("ard;", "↽"), ("aru;", "↼"), ("arul;", "⥪"), ("blk;", "▄")]⟩,
  ⟨'l', 'j', [("cy;", "љ")]⟩,
  ⟨'l', 'l', [(";", "≪"), ("arr;", "⇇"), ("corner;", "⌞"), ("hard;", "⥫"), ("tri;", "◺")]⟩,
  ⟨'l', 'm', [("idot;", "ŀ"), ("oust;", "⎰"), ("oustache;", "⎰")]⟩,
  ⟨'l', 'n', [("E;", "≨"), ("ap;", "⪉"), ("approx;", "⪉"), ("e;", "⪇"), ("eq;", "⪇"), ("eqq;", "≨"),
    ("sim;", "⋦")]⟩,
  ⟨'l', 'o', [("ang;", "⟬"), ("arr;", "⇽"), ("brk;", "⟦"), ("ngleftarrow;", "⟵"),
    ("ngleftrightarrow;", "⟷"), ("ngmapsto;", "⟼"), ("ngrightarrow;", "⟶"), ("oparrowleft;", "↫"),
    ("oparrowright;", "↬"), ("par;", "⦅"), ("pf;", "𝕝"), ("plus;", "⨭"), ("times;", "⨴"),
    ("wast;", "∗"), ("wbar;", "_"), ("z;", "◊"), ("zenge;", "◊"), ("zf;", "⧫")]⟩,
  ⟨'l', 'p', [("ar;", "("), ("arlt;", "⦓")]⟩,
  ⟨'l', 'r', [("arr;", "⇆"), ("corner;", "⌟"), ("har;", "⇋"), ("hard;", "⥭"), ("m;", "\u200e"),
    ("tri;", "⊿")]⟩,
  ⟨'l', 's', [("aquo;", "‹"), ("cr;", "𝓁"), ("h;", "↰"), ("im;", "≲"), ("ime;", "⪍"), ("img;", "⪏"),
    ("qb;", "["), ("quo;", "‘"), ("quor;", "‚"), ("trok;", "ł")]⟩,
  ⟨'l', 't', [("", "<"), (";", "<"), ("cc;", "⪦"), ("cir;", "⩹"), ("dot;", "⋖"), ("hree;", "⋋"),
    ("imes;", "⋉"), ("larr;", "⥶"), ("quest;", "⩻"), ("rPar;", "⦖"), ("ri;", "◃"), ("rie;", "⊴"),
    ("rif;", "◂")]⟩,
  ⟨'l', 'u', [("rdshar;", "⥊"), ("ruhar;", "⥦")]⟩,
  ⟨'l', 'v', [("ertneqq;", "≨\ufe00"), ("nE;", "≨\ufe00")]⟩,
  ⟨'m', 'D', [("Dot;", "∺")]⟩,
  ⟨'m', 'a', [("cr", "¯"), ("cr;", "¯"), ("le;", "♂"), ("lt;", "✠"), ("ltese;", "✠"), ("p;", "↦"),
    ("psto;", "↦"), ("pstodown;", "↧"), ("pstoleft;", "↤"), ("pstoup;", "↥"), ("rker;", "▮")]⟩,
  ⟨'m', 'c', [("omma;", "⨩"), ("y;", "м")]⟩,
  ⟨'m', 'd', [("ash;", "—")]⟩,
  ⟨'m', 'e', [("asuredangle;", "∡")]⟩,
  ⟨'m', 'f', [("r;", "𝔪")]⟩,
  ⟨'m', 'h', [("o;", "℧")]⟩,
  ⟨'m', 'i', [("cro", "µ"), ("cro;", "µ"), ("d;", "∣"), ("dast;", "*"), ("dcir;", "⫰"),
    ("ddot", "·"), ("ddot;", "·"), ("nus;", "−"), ("nusb;", "⊟"), ("nusd;", "∸"), ("nusdu;", "⨪")]⟩,
  ⟨'m', 'l', [("cp;", "⫛"), ("dr;", "…")]⟩,
  ⟨'m', 'n', [("plus;", "∓")]⟩,
  ⟨'m', 'o', [("dels;", "⊧"), ("pf;", "𝕞")]⟩,
  ⟨'m', 'p', [(";", "∓")]⟩,
  ⟨'m', 's', [("cr;", "𝓂"), ("tpos;", "∾")]⟩,
  ⟨'m', 'u', [(";", "μ"), ("ltimap;", "⊸"), ("map;", "⊸")]⟩]

/-- References that begin with `n` to `q`. -/
def lowerNToQ : List Group := [
  ⟨'n', 'G', [("g;", "⋙\u0338"), ("t;", "≫\u20d2"), ("tv;", "≫\u0338")]⟩,
  ⟨'n', 'L', [("eftarrow;", "⇍"), ("eftrightarrow;", "⇎"), ("l;", "⋘\u0338"), ("t;", "≪\u20d2"),
    ("tv;", "≪\u0338")]⟩,
  ⟨'n', 'R', [("ightarrow;", "⇏")]⟩,
  ⟨'n', 'V', [("Dash;", "⊯"), ("dash;", "⊮")]⟩,
  ⟨'n', 'a', [("bla;", "∇"), ("cute;", "ń"), ("ng;", "∠\u20d2"), ("p;", "≉"), ("pE;", "⩰\u0338"),
    ("pid;", "≋\u0338"), ("pos;", "ŉ"), ("pprox;", "≉"), ("tur;", "♮"), ("tural;", "♮"),
    ("turals;", "ℕ")]⟩,
  ⟨'n', 'b', [("sp", "\xa0"), ("sp;", "\xa0"), ("ump;", "≎\u0338"), ("umpe;", "≏\u0338")]⟩,
  ⟨'n', 'c', [("ap;", "⩃"), ("aron;", "ň"), ("edil;", "ņ"), ("ong;", "≇"), ("ongdot;", "⩭\u0338"),
    ("up;", "⩂"), ("y;", "н")]⟩,
  ⟨'n', 'd', [("ash;", "–")]⟩,
  ⟨'n', 'e', [(";", "≠"), ("Arr;", "⇗"), ("arhk;", "⤤"), ("arr;", "↗"), ("arrow;", "↗"),
    ("dot;", "≐\u0338"), ("quiv;", "≢"), ("sear;", "⤨"), ("sim;", "≂\u0338"), ("xist;", "∄"),
    ("xists;", "∄")]⟩,
  ⟨'n', 'f', [("r;", "𝔫")]⟩,
  ⟨'n', 'g', [("E;", "≧\u0338"), ("e;", "≱"), ("eq;", "≱"), ("eqq;", "≧\u0338"),
    ("eqslant;", "⩾\u0338"), ("es;", "⩾\u0338"), ("sim;", "≵"), ("t;", "≯"), ("tr;", "≯")]⟩,
  ⟨'n', 'h', [("Arr;", "⇎"), ("arr;", "↮"), ("par;", "⫲")]⟩,
  ⟨'n', 'i', [(";", "∋"), ("s;", "⋼"), ("sd;", "⋺"), ("v;", "∋")]⟩,
  ⟨'n', 'j', [("cy;", "њ")]⟩,
  ⟨'n', 'l', [("Arr;", "⇍"), ("E;", "≦\u0338"), ("arr;", "↚"), ("dr;", "‥"), ("e;", "≰"),
    ("eftarrow;", "↚"), ("eftrightarrow;", "↮"), ("eq;", "≰"), ("eqq;", "≦\u0338"),
    ("eqslant;", "⩽\u0338"), ("es;", "⩽\u0338"), ("ess;", "≮"), ("sim;", "≴"), ("t;", "≮"),
    ("tri;", "⋪"), ("trie;", "⋬")]⟩,
  ⟨'n', 'm', [("id;", "∤")]⟩,
  ⟨'n', 'o', [("pf;", "𝕟"), ("t", "¬"), ("t;", "¬"), ("tin;", "∉"), ("tinE;", "⋹\u0338"),
    ("tindot;", "⋵\u0338"), ("tinva;", "∉"), ("tinvb;", "⋷"), ("tinvc;", "⋶"), ("tni;", "∌"),
    ("tniva;", "∌"), ("tnivb;", "⋾"), ("tnivc;", "⋽")]⟩,
  ⟨'n', 'p', [("ar;", "∦"), ("arallel;", "∦"), ("arsl;", "⫽\u20e5"), ("art;", "∂\u0338"),
    ("olint;", "⨔"), ("r;", "⊀"), ("rcue;", "⋠"), ("re;", "⪯\u0338"), ("rec;", "⊀"),
    ("receq;", "⪯\u0338")]⟩,
  ⟨'n', 'r', [("Arr;", "⇏"), ("arr;", "↛"), ("arrc;", "⤳\u0338"), ("arrw;", "↝\u0338"),
    ("ightarrow;", "↛"), ("tri;", "⋫"), ("trie;", "⋭")]⟩,
  ⟨'n', 's', [("c;", "⊁"), ("ccue;", "⋡"), ("ce;", "⪰\u0338"), ("cr;", "𝓃"), ("hortmid;", "∤"),
    ("hortparallel;", "∦"), ("im;", "≁"), ("ime;", "≄"), ("imeq;", "≄"), ("mid;", "∤"),
    ("par;", "∦"), ("qsube;", "⋢"), ("qsupe;", "⋣"), ("ub;", "⊄"), ("ubE;", "⫅\u0338"),
    ("ube;", "⊈"), ("ubset;", "⊂\u20d2"), ("ubseteq;", "⊈"), ("ubseteqq;", "⫅\u0338"),
    ("ucc;", "⊁"), ("ucceq;", "⪰\u0338"), ("up;", "⊅"), ("upE;", "⫆\u0338"), ("upe;", "⊉"),
    ("upset;", "⊃\u20d2"), ("upseteq;", "⊉"), ("upseteqq;", "⫆\u0338")]⟩,
  ⟨'n', 't', [("gl;", "≹"), ("ilde", "ñ"), ("ilde;", "ñ"), ("lg;", "≸"), ("riangleleft;", "⋪"),
    ("rianglelefteq;", "⋬"), ("riangleright;", "⋫"), ("rianglerighteq;", "⋭")]⟩,
  ⟨'n', 'u', [(";", "ν"), ("m;", "#"), ("mero;", "№"), ("msp;", "\u2007")]⟩,
  ⟨'n', 'v', [("Dash;", "⊭"), ("Harr;", "⤄"), ("ap;", "≍\u20d2"), ("dash;", "⊬"),
    ("ge;", "≥\u20d2"), ("gt;", ">\u20d2"), ("infin;", "⧞"), ("lArr;", "⤂"), ("le;", "≤\u20d2"),
    ("lt;", "<\u20d2"), ("ltrie;", "⊴\u20d2"), ("rArr;", "⤃"), ("rtrie;", "⊵\u20d2"),
    ("sim;", "∼\u20d2")]⟩,
  ⟨'n', 'w', [("Arr;", "⇖"), ("arhk;", "⤣"), ("arr;", "↖"), ("arrow;", "↖"), ("near;", "⤧")]⟩,
  ⟨'o', 'S', [(";", "Ⓢ")]⟩,
  ⟨'o', 'a', [("cute", "ó"), ("cute;", "ó"), ("st;", "⊛")]⟩,
  ⟨'o', 'c', [("ir;", "⊚"), ("irc", "ô"), ("irc;", "ô"), ("y;", "о")]⟩,
  ⟨'o', 'd', [("ash;", "⊝"), ("blac;", "ő"), ("iv;", "⨸"), ("ot;", "⊙"), ("sold;", "⦼")]⟩,
  ⟨'o', 'e', [("lig;", "œ")]⟩,
  ⟨'o', 'f', [("cir;", "⦿"), ("r;", "𝔬")]⟩,
  ⟨'o', 'g', [("on;", "˛"), ("rave", "ò"), ("rave;", "ò"), ("t;", "⧁")]⟩,
  ⟨'o', 'h', [("bar;", "⦵"), ("m;", "Ω")]⟩,
  ⟨'o', 'i', [("nt;", "∮")]⟩,
  ⟨'o', 'l', [("arr;", "↺"), ("cir;", "⦾"), ("cross;", "⦻"), ("ine;", "‾"), ("t;", "⧀")]⟩,
  ⟨'o', 'm', [("acr;", "ō"), ("ega;", "ω"), ("icron;", "ο"), ("id;", "⦶"), ("inus;", "⊖")]⟩,
  ⟨'o', 'o', [("pf;", "𝕠")]⟩,
  ⟨'o', 'p', [("ar;", "⦷"), ("erp;", "⦹"), ("lus;", "⊕")]⟩,
  ⟨'o', 'r', [(";", "∨"), ("arr;", "↻"), ("d;", "⩝"), ("der;", "ℴ"), ("derof;", "ℴ"), ("df", "ª"),
    ("df;", "ª"), ("dm", "º"), ("dm;", "º"), ("igof;", "⊶"), ("or;", "⩖"), ("slope;", "⩗"),
    ("v;", "⩛")]⟩,
  ⟨'o', 's', [("cr;", "ℴ"), ("lash", "ø"), ("lash;", "ø"), ("ol;", "⊘")]⟩,
  ⟨'o', 't', [("ilde", "õ"), ("ilde;", "õ"), ("imes;", "⊗"), ("imesas;", "⨶")]⟩,
  ⟨'o', 'u', [("ml", "ö"), ("ml;", "ö")]⟩,
  ⟨'o', 'v', [("bar;", "⌽")]⟩,
  ⟨'p', 'a', [("r;", "∥"), ("ra", "¶"), ("ra;", "¶"), ("rallel;", "∥"), ("rsim;", "⫳"),
    ("rsl;", "⫽"), ("rt;", "∂")]⟩,
  ⟨'p', 'c', [("y;", "п")]⟩,
  ⟨'p', 'e', [("rcnt;", "%"), ("riod;", "."), ("rmil;", "‰"), ("rp;", "⊥"), ("rtenk;", "‱")]⟩,
  ⟨'p', 'f', [("r;", "𝔭")]⟩,
  ⟨'p', 'h', [("i;", "φ"), ("iv;", "ϕ"), ("mmat;", "ℳ"), ("one;", "☎")]⟩,
  ⟨'p', 'i', [(";", "π"), ("tchfork;", "⋔"), ("v;", "ϖ")]⟩,
  ⟨'p', 'l', [("anck;", "ℏ"), ("anckh;", "ℎ"), ("ankv;", "ℏ"), ("us;", "+"), ("usacir;", "⨣"),
    ("usb;", "⊞"), ("uscir;", "⨢"), ("usdo;", "∔"), ("usdu;", "⨥"), ("use;", "⩲"), ("usmn", "±"),
    ("usmn;", "±"), ("ussim;", "⨦"), ("ustwo;", "⨧")]⟩,
  ⟨'p', 'm', [(";", "±")]⟩,
  ⟨'p', 'o', [("intint;", "⨕"), ("pf;", "𝕡"), ("und", "£"), ("und;", "£")]⟩,
  ⟨'p', 'r', [(";", "≺"), ("E;", "⪳"), ("ap;", "⪷"), ("cue;", "≼"), ("e;", "⪯"), ("ec;", "≺"),
    ("ecapprox;", "⪷"), ("eccurlyeq;", "≼"), ("eceq;", "⪯"), ("ecnapprox;", "⪹"), ("ecneqq;", "⪵"),
    ("ecnsim;", "⋨"), ("ecsim;", "≾"), ("ime;", "′"), ("imes;", "ℙ"), ("nE;", "⪵"), ("nap;", "⪹"),
    ("nsim;", "⋨"), ("od;", "∏"), ("ofalar;", "⌮"), ("ofline;", "⌒"), ("ofsurf;", "⌓"),
    ("op;", "∝"), ("opto;", "∝"), ("sim;", "≾"), ("urel;", "⊰")]⟩,
  ⟨'p', 's', [("cr;", "𝓅"), ("i;", "ψ")]⟩,
  ⟨'p', 'u', [("ncsp;", "\u2008")]⟩,
  ⟨'q', 'f', [("r;", "𝔮")]⟩,
  ⟨'q', 'i', [("nt;", "⨌")]⟩,
  ⟨'q', 'o', [("pf;", "𝕢")]⟩,
  ⟨'q', 'p', [("rime;", "⁗")]⟩,
  ⟨'q', 's', [("cr;", "𝓆")]⟩,
  ⟨'q', 'u', [("aternions;", "ℍ"), ("atint;", "⨖"), ("est;", "?"), ("esteq;", "≟"), ("ot", "\""),
    ("ot;", "\"")]⟩]

/-- References that begin with `r` to `t`. -/
def lowerRToT : List Group := [
  ⟨'r', 'A', [("arr;", "⇛"), ("rr;", "⇒"), ("tail;", "⤜")]⟩,
  ⟨'r', 'B', [("arr;", "⤏")]⟩,
  ⟨'r', 'H', [("ar;", "⥤")]⟩,
  ⟨'r', 'a', [("ce;", "∽\u0331"), ("cute;", "ŕ"), ("dic;", "√"), ("emptyv;", "⦳"), ("ng;", "⟩"),
    ("ngd;", "⦒"), ("nge;", "⦥"), ("ngle;", "⟩"), ("quo", "»"), ("quo;", "»"), ("rr;", "→"),
    ("rrap;", "⥵"), ("rrb;", "⇥"), ("rrbfs;", "⤠"), ("rrc;", "⤳"), ("rrfs;", "⤞"), ("rrhk;", "↪"),
    ("rrlp;", "↬"), ("rrpl;", "⥅"), ("rrsim;", "⥴"), ("rrtl;", "↣"), ("rrw;", "↝"), ("tail;", "⤚"),
    ("tio;", "∶"), ("tionals;", "ℚ")]⟩,
  ⟨'r', 'b', [("arr;", "⤍"), ("brk;", "❳"), ("race;", "\x7d"), ("rack;", "]"), ("rke;", "⦌"),
    ("rksld;", "⦎"), ("rkslu;", "⦐")]⟩,
  ⟨'r', 'c', [("aron;", "ř"), ("edil;", "ŗ"), ("eil;", "⌉"), ("ub;", "\x7d"), ("y;", "р")]⟩,
  ⟨'r', 'd', [("ca;", "⤷"), ("ldhar;", "⥩"), ("quo;", "”"), ("quor;", "”"), ("sh;", "↳")]⟩,
  ⟨'r', 'e', [("al;", "ℜ"), ("aline;", "ℛ"), ("alpart;", "ℜ"), ("als;", "ℝ"), ("ct;", "▭"),
    ("g", "®"), ("g;", "®")]⟩,
  ⟨'r', 'f', [("isht;", "⥽"), ("loor;", "⌋"), ("r;", "𝔯")]⟩,
  ⟨'r', 'h', [("ard;", "⇁"), ("aru;", "⇀"), ("arul;", "⥬"), ("o;", "ρ"), ("ov;", "ϱ")]⟩,
  ⟨'r', 'i', [("ghtarrow;", "→"), ("ghtarrowtail;", "↣"), ("ghtharpoondown;", "⇁"),
    ("ghtharpoonup;", "⇀"), ("ghtleftarrows;", "⇄"), ("ghtleftharpoons;", "⇌"),
    ("ghtrightarrows;", "⇉"), ("ghtsquigarrow;", "↝"), ("ghtthreetimes;", "⋌"), ("ng;", "˚"),
    ("singdotseq;", "≓")]⟩,
  ⟨'r', 'l', [("arr;", "⇄"), ("har;", "⇌"), ("m;", "\u200f")]⟩,
  ⟨'r', 'm', [("oust;", "⎱"), ("oustache;", "⎱")]⟩,
  ⟨'r', 'n', [("mid;", "⫮")]⟩,
  ⟨'r', 'o', [("ang;", "⟭"), ("arr;", "⇾"), ("brk;", "⟧"), ("par;", "⦆"), ("pf;", "𝕣"),
    ("plus;", "⨮"), ("times;", "⨵")]⟩,
  ⟨'r', 'p', [("ar;", ")"), ("argt;", "⦔"), ("polint;", "⨒")]⟩,
  ⟨'r', 'r', [("arr;", "⇉")]⟩,
  ⟨'r', 's', [("aquo;", "›"), ("cr;", "𝓇"), ("h;", "↱"), ("qb;", "]"), ("quo;", "’"),
    ("quor;", "’")]⟩,
  ⟨'r', 't', [("hree;", "⋌"), ("imes;", "⋊"), ("ri;", "▹"), ("rie;", "⊵"), ("rif;", "▸"),
    ("riltri;", "⧎")]⟩,
  ⟨'r', 'u', [("luhar;", "⥨")]⟩,
  ⟨'r', 'x', [(";", "℞")]⟩,
  ⟨'s', 'a', [("cute;", "ś")]⟩,
  ⟨'s', 'b', [("quo;", "‚")]⟩,
  ⟨'s', 'c', [(";", "≻"), ("E;", "⪴"), ("ap;", "⪸"), ("aron;", "š"), ("cue;", "≽"), ("e;", "⪰"),
    ("edil;", "ş"), ("irc;", "ŝ"), ("nE;", "⪶"), ("nap;", "⪺"), ("nsim;", "⋩"), ("polint;", "⨓"),
    ("sim;", "≿"), ("y;", "с")]⟩,
  ⟨'s', 'd', [("ot;", "⋅"), ("otb;", "⊡"), ("ote;", "⩦")]⟩,
  ⟨'s', 'e', [("Arr;", "⇘"), ("arhk;", "⤥"), ("arr;", "↘"), ("arrow;", "↘"), ("ct", "§"),
    ("ct;", "§"), ("mi;", ";"), ("swar;", "⤩"), ("tminus;", "∖"), ("tmn;", "∖"), ("xt;", "✶")]⟩,
  ⟨'s', 'f', [("r;", "𝔰"), ("rown;", "⌢")]⟩,
  ⟨'s', 'h', [("arp;", "♯"), ("chcy;", "щ"), ("cy;", "ш"), ("ortmid;", "∣"), ("ortparallel;", "∥"),
    ("y", "\xad"), ("y;", "\xad")]⟩,
  ⟨'s', 'i', [("gma;", "σ"), ("gmaf;", "ς"), ("gmav;", "ς"), ("m;", "∼"), ("mdot;", "⩪"),
    ("me;", "≃"), ("meq;", "≃"), ("mg;", "⪞"), ("mgE;", "⪠"), ("ml;", "⪝"), ("mlE;", "⪟"),
    ("mne;", "≆"), ("mplus;", "⨤"), ("mrarr;", "⥲")]⟩,
  ⟨'s', 'l', [("arr;", "←")]⟩,
  ⟨'s', 'm', [("allsetminus;", "∖"), ("ashp;", "⨳"), ("eparsl;", "⧤"), ("id;", "∣"), ("ile;", "⌣"),
    ("t;", "⪪"), ("te;", "⪬"), ("tes;", "⪬\ufe00")]⟩,
  ⟨'s', 'o', [("ftcy;", "ь"), ("l;", "/"), ("lb;", "⧄"), ("lbar;", "⌿"), ("pf;", "𝕤")]⟩,
  ⟨'s', 'p', [("ades;", "♠"), ("adesuit;", "♠"), ("ar;", "∥")]⟩,
  ⟨'s', 'q', [("cap;", "⊓"), ("caps;", "⊓\ufe00"), ("cup;", "⊔"), ("cups;", "⊔\ufe00"),
    ("sub;", "⊏"), ("sube;", "⊑"), ("subset;", "⊏"), ("subseteq;", "⊑"), ("sup;", "⊐"),
    ("supe;", "⊒"), ("supset;", "⊐"), ("supseteq;", "⊒"), ("u;", "□"), ("uare;", "□"),
    ("uarf;", "▪"), ("uf;", "▪")]⟩,
  ⟨'s', 'r', [("arr;", "→")]⟩,
  ⟨'s', 's', [("cr;", "𝓈"), ("etmn;", "∖"), ("mile;", "⌣"), ("tarf;", "⋆")]⟩,
  ⟨'s', 't', [("ar;", "☆"), ("arf;", "★"), ("raightepsilon;", "ϵ"), ("raightphi;", "ϕ"),
    ("rns;", "¯")]⟩,
  ⟨'s', 'u', [("b;", "⊂"), ("bE;", "⫅"), ("bdot;", "⪽"), ("be;", "⊆"), ("bedot;", "⫃"),
    ("bmult;", "⫁"), ("bnE;", "⫋"), ("bne;", "⊊"), ("bplus;", "⪿"), ("brarr;", "⥹"), ("bset;", "⊂"),
    ("bseteq;", "⊆"), ("bseteqq;", "⫅"), ("bsetneq;", "⊊"), ("bsetneqq;", "⫋"), ("bsim;", "⫇"),
    ("bsub;", "⫕"), ("bsup;", "⫓"), ("cc;", "≻"), ("ccapprox;", "⪸"), ("cccurlyeq;", "≽"),
    ("cceq;", "⪰"), ("ccnapprox;", "⪺"), ("ccneqq;", "⪶"), ("ccnsim;", "⋩"), ("ccsim;", "≿"),
    ("m;", "∑"), ("ng;", "♪"), ("p1", "¹"), ("p1;", "¹"), ("p2", "²"), ("p2;", "²"), ("p3", "³"),
    ("p3;", "³"), ("p;", "⊃"), ("pE;", "⫆"), ("pdot;", "⪾"), ("pdsub;", "⫘"), ("pe;", "⊇"),
    ("pedot;", "⫄"), ("phsol;", "⟉"), ("phsub;", "⫗"), ("plarr;", "⥻"), ("pmult;", "⫂"),
    ("pnE;", "⫌"), ("pne;", "⊋"), ("pplus;", "⫀"), ("pset;", "⊃"), ("pseteq;", "⊇"),
    ("pseteqq;", "⫆"), ("psetneq;", "⊋"), ("psetneqq;", "⫌"), ("psim;", "⫈"), ("psub;", "⫔"),
    ("psup;", "⫖")]⟩,
  ⟨'s', 'w', [("Arr;", "⇙"), ("arhk;", "⤦"), ("arr;", "↙"), ("arrow;", "↙"), ("nwar;", "⤪")]⟩,
  ⟨'s', 'z', [("lig", "ß"), ("lig;", "ß")]⟩,
  ⟨'t', 'a', [("rget;", "⌖"), ("u;", "τ")]⟩,
  ⟨'t', 'b', [("rk;", "⎴")]⟩,
  ⟨'t', 'c', [("aron;", "ť"), ("edil;", "ţ"), ("y;", "т")]⟩,
  ⟨'t', 'd', [("ot;", "\u20db")]⟩,
  ⟨'t', 'e', [("lrec;", "⌕")]⟩,
  ⟨'t', 'f', [("r;", "𝔱")]⟩,
  ⟨'t', 'h', [("ere4;", "∴"), ("erefore;", "∴"), ("eta;", "θ"), ("etasym;", "ϑ"), ("etav;", "ϑ"),
    ("ickapprox;", "≈"), ("icksim;", "∼"), ("insp;", "\u2009"), ("kap;", "≈"), ("ksim;", "∼"),
    ("orn", "þ"), ("orn;", "þ")]⟩,
  ⟨'t', 'i', [("lde;", "˜"), ("mes", "×"), ("mes;", "×"), ("mesb;", "⊠"), ("mesbar;", "⨱"),
    ("mesd;", "⨰"), ("nt;", "∭")]⟩,
  ⟨'t', 'o', [("ea;", "⤨"), ("p;", "⊤"), ("pbot;", "⌶"), ("pcir;", "⫱"), ("pf;", "𝕥"),
    ("pfork;", "⫚"), ("sa;", "⤩")]⟩,
  ⟨'t', 'p', [("rime;", "‴")]⟩,
  ⟨'t', 'r', [("ade;", "™"), ("iangle;", "▵"), ("iangledown;", "▿"), ("iangleleft;", "◃"),
    ("ianglelefteq;", "⊴"), ("iangleq;", "≜"), ("iangleright;", "▹"), ("ianglerighteq;", "⊵"),
    ("idot;", "◬"), ("ie;", "≜"), ("iminus;", "⨺"), ("iplus;", "⨹"), ("isb;", "⧍"), ("itime;", "⨻"),
    ("pezium;", "⏢")]⟩,
  ⟨'t', 's', [("cr;", "𝓉"), ("cy;", "ц"), ("hcy;", "ћ"), ("trok;", "ŧ")]⟩,
  ⟨'t', 'w', [("ixt;", "≬"), ("oheadleftarrow;", "↞"), ("oheadrightarrow;", "↠")]⟩]

/-- References that begin with `u` to `z`. -/
def lowerUToZ : List Group := [
  ⟨'u', 'A', [("rr;", "⇑")]⟩,
  ⟨'u', 'H', [("ar;", "⥣")]⟩,
  ⟨'u', 'a', [("cute", "ú"), ("cute;", "ú"), ("rr;", "↑")]⟩,
  ⟨'u', 'b', [("rcy;", "ў"), ("reve;", "ŭ")]⟩,
  ⟨'u', 'c', [("irc", "û"), ("irc;", "û"), ("y;", "у")]⟩,
  ⟨'u', 'd', [("arr;", "⇅"), ("blac;", "ű"), ("har;", "⥮")]⟩,
  ⟨'u', 'f', [("isht;", "⥾"), ("r;", "𝔲")]⟩,
  ⟨'u', 'g', [("rave", "ù"), ("rave;", "ù")]⟩,
  ⟨'u', 'h', [("arl;", "↿"), ("arr;", "↾"), ("blk;", "▀")]⟩,
  ⟨'u', 'l', [("corn;", "⌜"), ("corner;", "⌜"), ("crop;", "⌏"), ("tri;", "◸")]⟩,
  ⟨'u', 'm', [("acr;", "ū"), ("l", "¨"), ("l;", "¨")]⟩,
  ⟨'u', 'o', [("gon;", "ų"), ("pf;", "𝕦")]⟩,
  ⟨'u', 'p', [("arrow;", "↑"), ("downarrow;", "↕"), ("harpoonleft;", "↿"), ("harpoonright;", "↾"),
    ("lus;", "⊎"), ("si;", "υ"), ("sih;", "ϒ"), ("silon;", "υ"), ("uparrows;", "⇈")]⟩,
  ⟨'u', 'r', [("corn;", "⌝"), ("corner;", "⌝"), ("crop;", "⌎"), ("ing;", "ů"), ("tri;", "◹")]⟩,
  ⟨'u', 's', [("cr;", "𝓊")]⟩,
  ⟨'u', 't', [("dot;", "⋰"), ("ilde;", "ũ"), ("ri;", "▵"), ("rif;", "▴")]⟩,
  ⟨'u', 'u', [("arr;", "⇈"), ("ml", "ü"), ("ml;", "ü")]⟩,
  ⟨'u', 'w', [("angle;", "⦧")]⟩,
  ⟨'v', 'A', [("rr;", "⇕")]⟩,
  ⟨'v', 'B', [("ar;", "⫨"), ("arv;", "⫩")]⟩,
  ⟨'v', 'D', [("ash;", "⊨")]⟩,
  ⟨'v', 'a', [("ngrt;", "⦜"), ("repsilon;", "ϵ"), ("rkappa;", "ϰ"), ("rnothing;", "∅"),
    ("rphi;", "ϕ"), ("rpi;", "ϖ"), ("rpropto;", "∝"), ("rr;", "↕"), ("rrho;", "ϱ"),
    ("rsigma;", "ς"), ("rsubsetneq;", "⊊\ufe00"), ("rsubsetneqq;", "⫋\ufe00"),
    ("rsupsetneq;", "⊋\ufe00"), ("rsupsetneqq;", "⫌\ufe00"), ("rtheta;", "ϑ"),
    ("rtriangleleft;", "⊲"), ("rtriangleright;", "⊳")]⟩,
  ⟨'v', 'c', [("y;", "в")]⟩,
  ⟨'v', 'd', [("ash;", "⊢")]⟩,
  ⟨'v', 'e', [("e;", "∨"), ("ebar;", "⊻"), ("eeq;", "≚"), ("llip;", "⋮"), ("rbar;", "|"),
    ("rt;", "|")]⟩,
  ⟨'v', 'f', [("r;", "𝔳")]⟩,
  ⟨'v', 'l', [("tri;", "⊲")]⟩,
  ⟨'v', 'n', [("sub;", "⊂\u20d2"), ("sup;", "⊃\u20d2")]⟩,
  ⟨'v', 'o', [("pf;", "𝕧")]⟩,
  ⟨'v', 'p', [("rop;", "∝")]⟩,
  ⟨'v', 'r', [("tri;", "⊳")]⟩,
  ⟨'v', 's', [("cr;", "𝓋"), ("ubnE;", "⫋\ufe00"), ("ubne;", "⊊\ufe00"), ("upnE;", "⫌\ufe00"),
    ("upne;", "⊋\ufe00")]⟩,
  ⟨'v', 'z', [("igzag;", "⦚")]⟩,
  ⟨'w', 'c', [("irc;", "ŵ")]⟩,
  ⟨'w', 'e', [("dbar;", "⩟"), ("dge;", "∧"), ("dgeq;", "≙"), ("ierp;", "℘")]⟩,
  ⟨'w', 'f', [("r;", "𝔴")]⟩,
  ⟨'w', 'o', [("pf;", "𝕨")]⟩,
  ⟨'w', 'p', [(";", "℘")]⟩,
  ⟨'w', 'r', [(";", "≀"), ("eath;", "≀")]⟩,
  ⟨'w', 's', [("cr;", "𝓌")]⟩,
  ⟨'x', 'c', [("ap;", "⋂"), ("irc;", "◯"), ("up;", "⋃")]⟩,
  ⟨'x', 'd', [("tri;", "▽")]⟩,
  ⟨'x', 'f', [("r;", "𝔵")]⟩,
  ⟨'x', 'h', [("Arr;", "⟺"), ("arr;", "⟷")]⟩,
  ⟨'x', 'i', [(";", "ξ")]⟩,
  ⟨'x', 'l', [("Arr;", "⟸"), ("arr;", "⟵")]⟩,
  ⟨'x', 'm', [("ap;", "⟼")]⟩,
  ⟨'x', 'n', [("is;", "⋻")]⟩,
  ⟨'x', 'o', [("dot;", "⨀"), ("pf;", "𝕩"), ("plus;", "⨁"), ("time;", "⨂")]⟩,
  ⟨'x', 'r', [("Arr;", "⟹"), ("arr;", "⟶")]⟩,
  ⟨'x', 's', [("cr;", "𝓍"), ("qcup;", "⨆")]⟩,
  ⟨'x', 'u', [("plus;", "⨄"), ("tri;", "△")]⟩,
  ⟨'x', 'v', [("ee;", "⋁")]⟩,
  ⟨'x', 'w', [("edge;", "⋀")]⟩,
  ⟨'y', 'a', [("cute", "ý"), ("cute;", "ý"), ("cy;", "я")]⟩,
  ⟨'y', 'c', [("irc;", "ŷ"), ("y;", "ы")]⟩,
  ⟨'y', 'e', [("n", "¥"), ("n;", "¥")]⟩,
  ⟨'y', 'f', [("r;", "𝔶")]⟩,
  ⟨'y', 'i', [("cy;", "ї")]⟩,
  ⟨'y', 'o', [("pf;", "𝕪")]⟩,
  ⟨'y', 's', [("cr;", "𝓎")]⟩,
  ⟨'y', 'u', [("cy;", "ю"), ("ml", "ÿ"), ("ml;", "ÿ")]⟩,
  ⟨'z', 'a', [("cute;", "ź")]⟩,
  ⟨'z', 'c', [("aron;", "ž"), ("y;", "з")]⟩,
  ⟨'z', 'd', [("ot;", "ż")]⟩,
  ⟨'z', 'e', [("etrf;", "ℨ"), ("ta;", "ζ")]⟩,
  ⟨'z', 'f', [("r;", "𝔷")]⟩,
  ⟨'z', 'h', [("cy;", "ж")]⟩,
  ⟨'z', 'i', [("grarr;", "⇝")]⟩,
  ⟨'z', 'o', [("pf;", "𝕫")]⟩,
  ⟨'z', 's', [("cr;", "𝓏")]⟩,
  ⟨'z', 'w', [("j;", "\u200d"), ("nj;", "\u200c")]⟩]

end FeedHarvest.Html.Reference
