import FeedHarvest.Html.Reference.Group

/-!
# Named references with an upper-case first letter

The part of HTML's table of named character references whose names begin with an upper-case letter,
in the order of the names. A name that is also known without its semicolon stands there twice.
-/

namespace FeedHarvest.Html.Reference

/-- References that begin with `A` to `M`. -/
def upperAToM : List Group := [
  ⟨'A', 'E', [("lig", "Æ"), ("lig;", "Æ")]⟩,
  ⟨'A', 'M', [("P", "&"), ("P;", "&")]⟩,
  ⟨'A', 'a', [("cute", "Á"), ("cute;", "Á")]⟩,
  ⟨'A', 'b', [("reve;", "Ă")]⟩,
  ⟨'A', 'c', [("irc", "Â"), ("irc;", "Â"), ("y;", "А")]⟩,
  ⟨'A', 'f', [("r;", "𝔄")]⟩,
  ⟨'A', 'g', [("rave", "À"), ("rave;", "À")]⟩,
  ⟨'A', 'l', [("pha;", "Α")]⟩,
  ⟨'A', 'm', [("acr;", "Ā")]⟩,
  ⟨'A', 'n', [("d;", "⩓")]⟩,
  ⟨'A', 'o', [("gon;", "Ą"), ("pf;", "𝔸")]⟩,
  ⟨'A', 'p', [("plyFunction;", "\u2061")]⟩,
  ⟨'A', 'r', [("ing", "Å"), ("ing;", "Å")]⟩,
  ⟨'A', 's', [("cr;", "𝒜"), ("sign;", "≔")]⟩,
  ⟨'A', 't', [("ilde", "Ã"), ("ilde;", "Ã")]⟩,
  ⟨'A', 'u', [("ml", "Ä"), ("ml;", "Ä")]⟩,
  ⟨'B', 'a', [("ckslash;", "∖"), ("rv;", "⫧"), ("rwed;", "⌆")]⟩,
  ⟨'B', 'c', [("y;", "Б")]⟩,
  ⟨'B', 'e', [("cause;", "∵"), ("rnoullis;", "ℬ"), ("ta;", "Β")]⟩,
  ⟨'B', 'f', [("r;", "𝔅")]⟩,
  ⟨'B', 'o', [("pf;", "𝔹")]⟩,
  ⟨'B', 'r', [("eve;", "˘")]⟩,
  ⟨'B', 's', [("cr;", "ℬ")]⟩,
  ⟨'B', 'u', [("mpeq;", "≎")]⟩,
  ⟨'C', 'H', [("cy;", "Ч")]⟩,
  ⟨'C', 'O', [("PY", "©"), ("PY;", "©")]⟩,
  ⟨'C', 'a', [("cute;", "Ć"), ("p;", "⋒"), ("pitalDifferentialD;", "ⅅ"), ("yleys;", "ℭ")]⟩,
  ⟨'C', 'c', [("aron;", "Č"), ("edil", "Ç"), ("edil;", "Ç"), ("irc;", "Ĉ"), ("onint;", "∰")]⟩,
  ⟨'C', 'd', [("ot;", "Ċ")]⟩,
  ⟨'C', 'e', [("dilla;", "¸"), ("nterDot;", "·")]⟩,
  ⟨'C', 'f', [("r;", "ℭ")]⟩,
  ⟨'C', 'h', [("i;", "Χ")]⟩,
  ⟨'C', 'i', [("rcleDot;", "⊙"), ("rcleMinus;", "⊖"), ("rclePlus;", "⊕"), ("rcleTimes;", "⊗")]⟩,
  ⟨'C', 'l', [("ockwiseContourIntegral;", "∲"), ("oseCurlyDoubleQuote;", "”"),
    ("oseCurlyQuote;", "’")]⟩,
  ⟨'C', 'o', [("lon;", "∷"), ("lone;", "⩴"), ("ngruent;", "≡"), ("nint;", "∯"),
    ("ntourIntegral;", "∮"), ("pf;", "ℂ"), ("product;", "∐"),
    ("unterClockwiseContourIntegral;", "∳")]⟩,
  ⟨'C', 'r', [("oss;", "⨯")]⟩,
  ⟨'C', 's', [("cr;", "𝒞")]⟩,
  ⟨'C', 'u', [("p;", "⋓"), ("pCap;", "≍")]⟩,
  ⟨'D', 'D', [(";", "ⅅ"), ("otrahd;", "⤑")]⟩,
  ⟨'D', 'J', [("cy;", "Ђ")]⟩,
  ⟨'D', 'S', [("cy;", "Ѕ")]⟩,
  ⟨'D', 'Z', [("cy;", "Џ")]⟩,
  ⟨'D', 'a', [("gger;", "‡"), ("rr;", "↡"), ("shv;", "⫤")]⟩,
  ⟨'D', 'c', [("aron;", "Ď"), ("y;", "Д")]⟩,
  ⟨'D', 'e', [("l;", "∇"), ("lta;", "Δ")]⟩,
  ⟨'D', 'f', [("r;", "𝔇")]⟩,
  ⟨'D', 'i', [("acriticalAcute;", "´"), ("acriticalDot;", "˙"), ("acriticalDoubleAcute;", "˝"),
    ("acriticalGrave;", "\x60"), ("acriticalTilde;", "˜"), ("amond;", "⋄"), ("fferentialD;", "ⅆ")]⟩,
  ⟨'D', 'o', [("pf;", "𝔻"), ("t;", "¨"), ("tDot;", "\u20dc"), ("tEqual;", "≐"),
    ("ubleContourIntegral;", "∯"), ("ubleDot;", "¨"), ("ubleDownArrow;", "⇓"),
    ("ubleLeftArrow;", "⇐"), ("ubleLeftRightArrow;", "⇔"), ("ubleLeftTee;", "⫤"),
    ("ubleLongLeftArrow;", "⟸"), ("ubleLongLeftRightArrow;", "⟺"), ("ubleLongRightArrow;", "⟹"),
    ("ubleRightArrow;", "⇒"), ("ubleRightTee;", "⊨"), ("ubleUpArrow;", "⇑"),
    ("ubleUpDownArrow;", "⇕"), ("ubleVerticalBar;", "∥"), ("wnArrow;", "↓"), ("wnArrowBar;", "⤓"),
    ("wnArrowUpArrow;", "⇵"), ("wnBreve;", "\u0311"), ("wnLeftRightVector;", "⥐"),
    ("wnLeftTeeVector;", "⥞"), ("wnLeftVector;", "↽"), ("wnLeftVectorBar;", "⥖"),
    ("wnRightTeeVector;", "⥟"), ("wnRightVector;", "⇁"), ("wnRightVectorBar;", "⥗"),
    ("wnTee;", "⊤"), ("wnTeeArrow;", "↧"), ("wnarrow;", "⇓")]⟩,
  ⟨'D', 's', [("cr;", "𝒟"), ("trok;", "Đ")]⟩,
  ⟨'E', 'N', [("G;", "Ŋ")]⟩,
  ⟨'E', 'T', [("H", "Ð"), ("H;", "Ð")]⟩,
  ⟨'E', 'a', [("cute", "É"), ("cute;", "É")]⟩,
  ⟨'E', 'c', [("aron;", "Ě"), ("irc", "Ê"), ("irc;", "Ê"), ("y;", "Э")]⟩,
  ⟨'E', 'd', [("ot;", "Ė")]⟩,
  ⟨'E', 'f', [("r;", "𝔈")]⟩,
  ⟨'E', 'g', [("rave", "È"), ("rave;", "È")]⟩,
  ⟨'E', 'l', [("ement;", "∈")]⟩,
  ⟨'E', 'm', [("acr;", "Ē"), ("ptySmallSquare;", "◻"), ("ptyVerySmallSquare;", "▫")]⟩,
  ⟨'E', 'o', [("gon;", "Ę"), ("pf;", "𝔼")]⟩,
  ⟨'E', 'p', [("silon;", "Ε")]⟩,
  ⟨'E', 'q', [("ual;", "⩵"), ("ualTilde;", "≂"), ("uilibrium;", "⇌")]⟩,
  ⟨'E', 's', [("cr;", "ℰ"), ("im;", "⩳")]⟩,
  ⟨'E', 't', [("a;", "Η")]⟩,
  ⟨'E', 'u', [("ml", "Ë"), ("ml;", "Ë")]⟩,
  ⟨'E', 'x', [("ists;", "∃"), ("ponentialE;", "ⅇ")]⟩,
  ⟨'F', 'c', [("y;", "Ф")]⟩,
  ⟨'F', 'f', [("r;", "𝔉")]⟩,
  ⟨'F', 'i', [("lledSmallSquare;", "◼"), ("lledVerySmallSquare;", "▪")]⟩,
  ⟨'F', 'o', [("pf;", "𝔽"), ("rAll;", "∀"), ("uriertrf;", "ℱ")]⟩,
  ⟨'F', 's', [("cr;", "ℱ")]⟩,
  ⟨'G', 'J', [("cy;", "Ѓ")]⟩,
  ⟨'G', 'T', [("", ">"), (";", ">")]⟩,
  ⟨'G', 'a', [("mma;", "Γ"), ("mmad;", "Ϝ")]⟩,
  ⟨'G', 'b', [("reve;", "Ğ")]⟩,
  ⟨'G', 'c', [("edil;", "Ģ"), ("irc;", "Ĝ"), ("y;", "Г")]⟩,
  ⟨'G', 'd', [("ot;", "Ġ")]⟩,
  ⟨'G', 'f', [("r;", "𝔊")]⟩,
  ⟨'G', 'g', [(";", "⋙")]⟩,
  ⟨'G', 'o', [("pf;", "𝔾")]⟩,
  ⟨'G', 'r', [("eaterEqual;", "≥"), ("eaterEqualLess;", "⋛"), ("eaterFullEqual;", "≧"),
    ("eaterGreater;", "⪢"), ("eaterLess;", "≷"), ("eaterSlantEqual;", "⩾"), ("eaterTilde;", "≳")]⟩,
  ⟨'G', 's', [("cr;", "𝒢")]⟩,
  ⟨'G', 't', [(";", "≫")]⟩,
  ⟨'H', 'A', [("RDcy;", "Ъ")]⟩,
  ⟨'H', 'a', [("cek;", "ˇ"), ("t;", "^")]⟩,
  ⟨'H', 'c', [("irc;", "Ĥ")]⟩,
  ⟨'H', 'f', [("r;", "ℌ")]⟩,
  ⟨'H', 'i', [("lbertSpace;", "ℋ")]⟩,
  ⟨'H', 'o', [("pf;", "ℍ"), ("rizontalLine;", "─")]⟩,
  ⟨'H', 's', [("cr;", "ℋ"), ("trok;", "Ħ")]⟩,
  ⟨'H', 'u', [("mpDownHump;", "≎"), ("mpEqual;", "≏")]⟩,
  ⟨'I', 'E', [("cy;", "Е")]⟩,
  ⟨'I', 'J', [("lig;", "Ĳ")]⟩,
  ⟨'I', 'O', [("cy;", "Ё")]⟩,
  ⟨'I', 'a', [("cute", "Í"), ("cute;", "Í")]⟩,
  ⟨'I', 'c', [("irc", "Î"), ("irc;", "Î"), ("y;", "И")]⟩,
  ⟨'I', 'd', [("ot;", "İ")]⟩,
  ⟨'I', 'f', [("r;", "ℑ")]⟩,
  ⟨'I', 'g', [("rave", "Ì"), ("rave;", "Ì")]⟩,
  ⟨'I', 'm', [(";", "ℑ"), ("acr;", "Ī"), ("aginaryI;", "ⅈ"), ("plies;", "⇒")]⟩,
  ⟨'I', 'n', [("t;", "∬"), ("tegral;", "∫"), ("tersection;", "⋂"), ("visibleComma;", "\u2063"),
    ("visibleTimes;", "\u2062")]⟩,
  ⟨'I', 'o', [("gon;", "Į"), ("pf;", "𝕀"), ("ta;", "Ι")]⟩,
  ⟨'I', 's', [("cr;", "ℐ")]⟩,
  ⟨'I', 't', [("ilde;", "Ĩ")]⟩,
  ⟨'I', 'u', [("kcy;", "І"), ("ml", "Ï"), ("ml;", "Ï")]⟩,
  ⟨'J', 'c', [("irc;", "Ĵ"), ("y;", "Й")]⟩,
  ⟨'J', 'f', [("r;", "𝔍")]⟩,
  ⟨'J', 'o', [("pf;", "𝕁")]⟩,
  ⟨'J', 's', [("cr;", "𝒥"), ("ercy;", "Ј")]⟩,
  ⟨'J', 'u', [("kcy;", "Є")]⟩,
  ⟨'K', 'H', [("cy;", "Х")]⟩,
  ⟨'K', 'J', [("cy;", "Ќ")]⟩,
  ⟨'K', 'a', [("ppa;", "Κ")]⟩,
  ⟨'K', 'c', [("edil;", "Ķ"), ("y;", "К")]⟩,
  ⟨'K', 'f', [("r;", "𝔎")]⟩,
  ⟨'K', 'o', [("pf;", "𝕂")]⟩,
  ⟨'K', 's', [("cr;", "𝒦")]⟩,
  ⟨'L', 'J', [("cy;", "Љ")]⟩,
  ⟨'L', 'T', [("", "<"), (";", "<")]⟩,
  ⟨'L', 'a', [("cute;", "Ĺ"), ("mbda;", "Λ"), ("ng;", "⟪"), ("placetrf;", "ℒ"), ("rr;", "↞")]⟩,
  ⟨'L', 'c', [("aron;", "Ľ"), ("edil;", "Ļ"), ("y;", "Л")]⟩,
  ⟨'L', 'e', [("ftAngleBracket;", "⟨"), ("ftArrow;", "←"), ("ftArrowBar;", "⇤"),
    ("ftArrowRightArrow;", "⇆"), ("ftCeiling;", "⌈"), ("ftDoubleBracket;", "⟦"),
    ("ftDownTeeVector;", "⥡"), ("ftDownVector;", "⇃"), ("ftDownVectorBar;", "⥙"), ("ftFloor;", "⌊"),
    ("ftRightArrow;", "↔"), ("ftRightVector;", "⥎"), ("ftTee;", "⊣"), ("ftTeeArrow;", "↤"),
    ("ftTeeVector;", "⥚"), ("ftTriangle;", "⊲"), ("ftTriangleBar;", "⧏"), ("ftTriangleEqual;", "⊴"),
    ("ftUpDownVector;", "⥑"), ("ftUpTeeVector;", "⥠"), ("ftUpVector;", "↿"),
    ("ftUpVectorBar;", "⥘"), ("ftVector;", "↼"), ("ftVectorBar;", "⥒"), ("ftarrow;", "⇐"),
    ("ftrightarrow;", "⇔"), ("ssEqualGreater;", "⋚"), ("ssFullEqual;", "≦"), ("ssGreater;", "≶"),
    ("ssLess;", "⪡"), ("ssSlantEqual;", "⩽"), ("ssTilde;", "≲")]⟩,
  ⟨'L', 'f', [("r;", "𝔏")]⟩,
  ⟨'L', 'l', [(";", "⋘"), ("eftarrow;", "⇚")]⟩,
  ⟨'L', 'm', [("idot;", "Ŀ")]⟩,
  ⟨'L', 'o', [("ngLeftArrow;", "⟵"), ("ngLeftRightArrow;", "⟷"), ("ngRightArrow;", "⟶"),
    ("ngleftarrow;", "⟸"), ("ngleftrightarrow;", "⟺"), ("ngrightarrow;", "⟹"), ("pf;", "𝕃"),
    ("werLeftArrow;", "↙"), ("werRightArrow;", "↘")]⟩,
  ⟨'L', 's', [("cr;", "ℒ"), ("h;", "↰"), ("trok;", "Ł")]⟩,
  ⟨'L', 't', [(";", "≪")]⟩,
  ⟨'M', 'a', [("p;", "⤅")]⟩,
  ⟨'M', 'c', [("y;", "М")]⟩,
  ⟨'M', 'e', [("diumSpace;", "\u205f"), ("llintrf;", "ℳ")]⟩,
  ⟨'M', 'f', [("r;", "𝔐")]⟩,
  ⟨'M', 'i', [("nusPlus;", "∓")]⟩,
  ⟨'M', 'o', [("pf;", "𝕄")]⟩,
  ⟨'M', 's', [("cr;", "ℳ")]⟩,
  ⟨'M', 'u', [(";", "Μ")]⟩]

/-- References that begin with `N` to `Z`. -/
def upperNToZ : List Group := [
  ⟨'N', 'J', [("cy;", "Њ")]⟩,
  ⟨'N', 'a', [("cute;", "Ń")]⟩,
  ⟨'N', 'c', [("aron;", "Ň"), ("edil;", "Ņ"), ("y;", "Н")]⟩,
  ⟨'N', 'e', [("gativeMediumSpace;", "\u200b"), ("gativeThickSpace;", "\u200b"),
    ("gativeThinSpace;", "\u200b"), ("gativeVeryThinSpace;", "\u200b"),
    ("stedGreaterGreater;", "≫"), ("stedLessLess;", "≪"), ("wLine;", "\x0a")]⟩,
  ⟨'N', 'f', [("r;", "𝔑")]⟩,
  ⟨'N', 'o', [("Break;", "\u2060"), ("nBreakingSpace;", "\xa0"), ("pf;", "ℕ"), ("t;", "⫬"),
    ("tCongruent;", "≢"), ("tCupCap;", "≭"), ("tDoubleVerticalBar;", "∦"), ("tElement;", "∉"),
    ("tEqual;", "≠"), ("tEqualTilde;", "≂\u0338"), ("tExists;", "∄"), ("tGreater;", "≯"),
    ("tGreaterEqual;", "≱"), ("tGreaterFullEqual;", "≧\u0338"), ("tGreaterGreater;", "≫\u0338"),
    ("tGreaterLess;", "≹"), ("tGreaterSlantEqual;", "⩾\u0338"), ("tGreaterTilde;", "≵"),
    ("tHumpDownHump;", "≎\u0338"), ("tHumpEqual;", "≏\u0338"), ("tLeftTriangle;", "⋪"),
    ("tLeftTriangleBar;", "⧏\u0338"), ("tLeftTriangleEqual;", "⋬"), ("tLess;", "≮"),
    ("tLessEqual;", "≰"), ("tLessGreater;", "≸"), ("tLessLess;", "≪\u0338"),
    ("tLessSlantEqual;", "⩽\u0338"), ("tLessTilde;", "≴"), ("tNestedGreaterGreater;", "⪢\u0338"),
    ("tNestedLessLess;", "⪡\u0338"), ("tPrecedes;", "⊀"), ("tPrecedesEqual;", "⪯\u0338"),
    ("tPrecedesSlantEqual;", "⋠"), ("tReverseElement;", "∌"), ("tRightTriangle;", "⋫"),
    ("tRightTriangleBar;", "⧐\u0338"), ("tRightTriangleEqual;", "⋭"), ("tSquareSubset;", "⊏\u0338"),
    ("tSquareSubsetEqual;", "⋢"), ("tSquareSuperset;", "⊐\u0338"), ("tSquareSupersetEqual;", "⋣"),
    ("tSubset;", "⊂\u20d2"), ("tSubsetEqual;", "⊈"), ("tSucceeds;", "⊁"),
    ("tSucceedsEqual;", "⪰\u0338"), ("tSucceedsSlantEqual;", "⋡"), ("tSucceedsTilde;", "≿\u0338"),
    ("tSuperset;", "⊃\u20d2"), ("tSupersetEqual;", "⊉"), ("tTilde;", "≁"), ("tTildeEqual;", "≄"),
    ("tTildeFullEqual;", "≇"), ("tTildeTilde;", "≉"), ("tVerticalBar;", "∤")]⟩,
  ⟨'N', 's', [("cr;", "𝒩")]⟩,
  ⟨'N', 't', [("ilde", "Ñ"), ("ilde;", "Ñ")]⟩,
  ⟨'N', 'u', [(";", "Ν")]⟩,
  ⟨'O', 'E', [("lig;", "Œ")]⟩,
  ⟨'O', 'a', [("cute", "Ó"), ("cute;", "Ó")]⟩,
  ⟨'O', 'c', [("irc", "Ô"), ("irc;", "Ô"), ("y;", "О")]⟩,
  ⟨'O', 'd', [("blac;", "Ő")]⟩,
  ⟨'O', 'f', [("r;", "𝔒")]⟩,
  ⟨'O', 'g', [("rave", "Ò"), ("rave;", "Ò")]⟩,
  ⟨'O', 'm', [("acr;", "Ō"), ("ega;", "Ω"), ("icron;", "Ο")]⟩,
  ⟨'O', 'o', [("pf;", "𝕆")]⟩,
  ⟨'O', 'p', [("enCurlyDoubleQuote;", "“"), ("enCurlyQuote;", "‘")]⟩,
  ⟨'O', 'r', [(";", "⩔")]⟩,
  ⟨'O', 's', [("cr;", "𝒪"), ("lash", "Ø"), ("lash;", "Ø")]⟩,
  ⟨'O', 't', [("ilde", "Õ"), ("ilde;", "Õ"), ("imes;", "⨷")]⟩,
  ⟨'O', 'u', [("ml", "Ö"), ("ml;", "Ö")]⟩,
  ⟨'O', 'v', [("erBar;", "‾"), ("erBrace;", "⏞"), ("erBracket;", "⎴"), ("erParenthesis;", "⏜")]⟩,
  ⟨'P', 'a', [("rtialD;", "∂")]⟩,
  ⟨'P', 'c', [("y;", "П")]⟩,
  ⟨'P', 'f', [("r;", "𝔓")]⟩,
  ⟨'P', 'h', [("i;", "Φ")]⟩,
  ⟨'P', 'i', [(";", "Π")]⟩,
  ⟨'P', 'l', [("usMinus;", "±")]⟩,
  ⟨'P', 'o', [("incareplane;", "ℌ"), ("pf;", "ℙ")]⟩,
  ⟨'P', 'r', [(";", "⪻"), ("ecedes;", "≺"), ("ecedesEqual;", "⪯"), ("ecedesSlantEqual;", "≼"),
    ("ecedesTilde;", "≾"), ("ime;", "″"), ("oduct;", "∏"), ("oportion;", "∷"),
    ("oportional;", "∝")]⟩,
  ⟨'P', 's', [("cr;", "𝒫"), ("i;", "Ψ")]⟩,
  ⟨'Q', 'U', [("OT", "\""), ("OT;", "\"")]⟩,
  ⟨'Q', 'f', [("r;", "𝔔")]⟩,
  ⟨'Q', 'o', [("pf;", "ℚ")]⟩,
  ⟨'Q', 's', [("cr;", "𝒬")]⟩,
  ⟨'R', 'B', [("arr;", "⤐")]⟩,
  ⟨'R', 'E', [("G", "®"), ("G;", "®")]⟩,
  ⟨'R', 'a', [("cute;", "Ŕ"), ("ng;", "⟫"), ("rr;", "↠"), ("rrtl;", "⤖")]⟩,
  ⟨'R', 'c', [("aron;", "Ř"), ("edil;", "Ŗ"), ("y;", "Р")]⟩,
  ⟨'R', 'e', [(";", "ℜ"), ("verseElement;", "∋"), ("verseEquilibrium;", "⇋"),
    ("verseUpEquilibrium;", "⥯")]⟩,
  ⟨'R', 'f', [("r;", "ℜ")]⟩,
  ⟨'R', 'h', [("o;", "Ρ")]⟩,
  ⟨'R', 'i', [("ghtAngleBracket;", "⟩"), ("ghtArrow;", "→"), ("ghtArrowBar;", "⇥"),
    ("ghtArrowLeftArrow;", "⇄"), ("ghtCeiling;", "⌉"), ("ghtDoubleBracket;", "⟧"),
    ("ghtDownTeeVector;", "⥝"), ("ghtDownVector;", "⇂"), ("ghtDownVectorBar;", "⥕"),
    ("ghtFloor;", "⌋"), ("ghtTee;", "⊢"), ("ghtTeeArrow;", "↦"), ("ghtTeeVector;", "⥛"),
    ("ghtTriangle;", "⊳"), ("ghtTriangleBar;", "⧐"), ("ghtTriangleEqual;", "⊵"),
    ("ghtUpDownVector;", "⥏"), ("ghtUpTeeVector;", "⥜"), ("ghtUpVector;", "↾"),
    ("ghtUpVectorBar;", "⥔"), ("ghtVector;", "⇀"), ("ghtVectorBar;", "⥓"), ("ghtarrow;", "⇒")]⟩,
  ⟨'R', 'o', [("pf;", "ℝ"), ("undImplies;", "⥰")]⟩,
  ⟨'R', 'r', [("ightarrow;", "⇛")]⟩,
  ⟨'R', 's', [("cr;", "ℛ"), ("h;", "↱")]⟩,
  ⟨'R', 'u', [("leDelayed;", "⧴")]⟩,
  ⟨'S', 'H', [("CHcy;", "Щ"), ("cy;", "Ш")]⟩,
  ⟨'S', 'O', [("FTcy;", "Ь")]⟩,
  ⟨'S', 'a', [("cute;", "Ś")]⟩,
  ⟨'S', 'c', [(";", "⪼"), ("aron;", "Š"), ("edil;", "Ş"), ("irc;", "Ŝ"), ("y;", "С")]⟩,
  ⟨'S', 'f', [("r;", "𝔖")]⟩,
  ⟨'S', 'h', [("ortDownArrow;", "↓"), ("ortLeftArrow;", "←"), ("ortRightArrow;", "→"),
    ("ortUpArrow;", "↑")]⟩,
  ⟨'S', 'i', [("gma;", "Σ")]⟩,
  ⟨'S', 'm', [("allCircle;", "∘")]⟩,
  ⟨'S', 'o', [("pf;", "𝕊")]⟩,
  ⟨'S', 'q', [("rt;", "√"), ("uare;", "□"), ("uareIntersection;", "⊓"), ("uareSubset;", "⊏"),
    ("uareSubsetEqual;", "⊑"), ("uareSuperset;", "⊐"), ("uareSupersetEqual;", "⊒"),
    ("uareUnion;", "⊔")]⟩,
  ⟨'S', 's', [("cr;", "𝒮")]⟩,
  ⟨'S', 't', [("ar;", "⋆")]⟩,
  ⟨'S', 'u', [("b;", "⋐"), ("bset;", "⋐"), ("bsetEqual;", "⊆"), ("cceeds;", "≻"),
    ("cceedsEqual;", "⪰"), ("cceedsSlantEqual;", "≽"), ("cceedsTilde;", "≿"), ("chThat;", "∋"),
    ("m;", "∑"), ("p;", "⋑"), ("perset;", "⊃"), ("persetEqual;", "⊇"), ("pset;", "⋑")]⟩,
  ⟨'T', 'H', [("ORN", "Þ"), ("ORN;", "Þ")]⟩,
  ⟨'T', 'R', [("ADE;", "™")]⟩,
  ⟨'T', 'S', [("Hcy;", "Ћ"), ("cy;", "Ц")]⟩,
  ⟨'T', 'a', [("b;", "\x09"), ("u;", "Τ")]⟩,
  ⟨'T', 'c', [("aron;", "Ť"), ("edil;", "Ţ"), ("y;", "Т")]⟩,
  ⟨'T', 'f', [("r;", "𝔗")]⟩,
  ⟨'T', 'h', [("erefore;", "∴"), ("eta;", "Θ"), ("ickSpace;", "\u205f\u200a"),
    ("inSpace;", "\u2009")]⟩,
  ⟨'T', 'i', [("lde;", "∼"), ("ldeEqual;", "≃"), ("ldeFullEqual;", "≅"), ("ldeTilde;", "≈")]⟩,
  ⟨'T', 'o', [("pf;", "𝕋")]⟩,
  ⟨'T', 'r', [("ipleDot;", "\u20db")]⟩,
  ⟨'T', 's', [("cr;", "𝒯"), ("trok;", "Ŧ")]⟩,
  ⟨'U', 'a', [("cute", "Ú"), ("cute;", "Ú"), ("rr;", "↟"), ("rrocir;", "⥉")]⟩,
  ⟨'U', 'b', [("rcy;", "Ў"), ("reve;", "Ŭ")]⟩,
  ⟨'U', 'c', [("irc", "Û"), ("irc;", "Û"), ("y;", "У")]⟩,
  ⟨'U', 'd', [("blac;", "Ű")]⟩,
  ⟨'U', 'f', [("r;", "𝔘")]⟩,
  ⟨'U', 'g', [("rave", "Ù"), ("rave;", "Ù")]⟩,
  ⟨'U', 'm', [("acr;", "Ū")]⟩,
  ⟨'U', 'n', [("derBar;", "_"), ("derBrace;", "⏟"), ("derBracket;", "⎵"), ("derParenthesis;", "⏝"),
    ("ion;", "⋃"), ("ionPlus;", "⊎")]⟩,
  ⟨'U', 'o', [("gon;", "Ų"), ("pf;", "𝕌")]⟩,
  ⟨'U', 'p', [("Arrow;", "↑"), ("ArrowBar;", "⤒"), ("ArrowDownArrow;", "⇅"), ("DownArrow;", "↕"),
    ("Equilibrium;", "⥮"), ("Tee;", "⊥"), ("TeeArrow;", "↥"), ("arrow;", "⇑"), ("downarrow;", "⇕"),
    ("perLeftArrow;", "↖"), ("perRightArrow;", "↗"), ("si;", "ϒ"), ("silon;", "Υ")]⟩,
  ⟨'U', 'r', [("ing;", "Ů")]⟩,
  ⟨'U', 's', [("cr;", "𝒰")]⟩,
  ⟨'U', 't', [("ilde;", "Ũ")]⟩,
  ⟨'U', 'u', [("ml", "Ü"), ("ml;", "Ü")]⟩,
  ⟨'V', 'D', [("ash;", "⊫")]⟩,
  ⟨'V', 'b', [("ar;", "⫫")]⟩,
  ⟨'V', 'c', [("y;", "В")]⟩,
  ⟨'V', 'd', [("ash;", "⊩"), ("ashl;", "⫦")]⟩,
  ⟨'V', 'e', [("e;", "⋁"), ("rbar;", "‖"), ("rt;", "‖"), ("rticalBar;", "∣"), ("rticalLine;", "|"),
    ("rticalSeparator;", "❘"), ("rticalTilde;", "≀"), ("ryThinSpace;", "\u200a")]⟩,
  ⟨'V', 'f', [("r;", "𝔙")]⟩,
  ⟨'V', 'o', [("pf;", "𝕍")]⟩,
  ⟨'V', 's', [("cr;", "𝒱")]⟩,
  ⟨'V', 'v', [("dash;", "⊪")]⟩,
  ⟨'W', 'c', [("irc;", "Ŵ")]⟩,
  ⟨'W', 'e', [("dge;", "⋀")]⟩,
  ⟨'W', 'f', [("r;", "𝔚")]⟩,
  ⟨'W', 'o', [("pf;", "𝕎")]⟩,
  ⟨'W', 's', [("cr;", "𝒲")]⟩,
  ⟨'X', 'f', [("r;", "𝔛")]⟩,
  ⟨'X', 'i', [(";", "Ξ")]⟩,
  ⟨'X', 'o', [("pf;", "𝕏")]⟩,
  ⟨'X', 's', [("cr;", "𝒳")]⟩,
  ⟨'Y', 'A', [("cy;", "Я")]⟩,
  ⟨'Y', 'I', [("cy;", "Ї")]⟩,
  ⟨'Y', 'U', [("cy;", "Ю")]⟩,
  ⟨'Y', 'a', [("cute", "Ý"), ("cute;", "Ý")]⟩,
  ⟨'Y', 'c', [("irc;", "Ŷ"), ("y;", "Ы")]⟩,
  ⟨'Y', 'f', [("r;", "𝔜")]⟩,
  ⟨'Y', 'o', [("pf;", "𝕐")]⟩,
  ⟨'Y', 's', [("cr;", "𝒴")]⟩,
  ⟨'Y', 'u', [("ml;", "Ÿ")]⟩,
  ⟨'Z', 'H', [("cy;", "Ж")]⟩,
  ⟨'Z', 'a', [("cute;", "Ź")]⟩,
  ⟨'Z', 'c', [("aron;", "Ž"), ("y;", "З")]⟩,
  ⟨'Z', 'd', [("ot;", "Ż")]⟩,
  ⟨'Z', 'e', [("roWidthSpace;", "\u200b"), ("ta;", "Ζ")]⟩,
  ⟨'Z', 'f', [("r;", "ℨ")]⟩,
  ⟨'Z', 'o', [("pf;", "ℤ")]⟩,
  ⟨'Z', 's', [("cr;", "𝒵")]⟩]

end FeedHarvest.Html.Reference
