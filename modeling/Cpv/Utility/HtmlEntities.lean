import Cpv.Utility.SharedString

namespace cpv

/-- The named entities of html and the bytes they stand for. -/
def HtmlEntities : List (String × String) := [
  ("&Tab;", "\x09"), ("&NewLine;", "\x0A"), ("&excl;", "!"), ("&quot;", "\x22"), ("&QUOT;", "\x22"),
  ("&num;", "\x23"), ("&dollar;", "\x24"), ("&percnt;", "\x25"), ("&amp;", "\x26"), ("&AMP;", "\x26"),
  ("&apos;", "'"), ("&lpar;", "("), ("&rpar;", ")"), ("&ast;", "*"), ("&midast;", "*"), ("&plus;", "\x2B"),
  ("&comma;", "\x2C"), ("&period;", "."), ("&sol;", "\x2F"), ("&colon;", "\x3A"), ("&semi;", "\x3B"),
  ("&lt;", "\x3C"), ("&LT;", "\x3C"), ("&equals;", "\x3D"), ("&gt;", "\x3E"), ("&GT;", "\x3E"), ("&quest;", "\x3F"),
  ("&commat;", "\x40"), ("&lsqb;", "\x5B"), ("&lbrack;", "\x5B"), ("&bsol;", "\x5C"), ("&rsqb;", "\x5D"),
  ("&rbrack;", "\x5D"), ("&Hat;", "\x5E"), ("&lowbar;", "_"), ("&grave;", "\x60"), ("&DiacriticalGrave;", "\x60"),
  ("&lcub;", "\x7B"), ("&lbrace;", "\x7B"), ("&verbar;", "\x7C"), ("&vert;", "\x7C"), ("&VerticalLine;", "\x7C"),
  ("&rcub;", "\x7D"), ("&rbrace;", "\x7D"), ("&nbsp;", "\xC2\xA0"), ("&NonBreakingSpace;", "\xC2\xA0"),
  ("&iexcl;", "\xC2\xA1"), ("&cent;", "\xC2\xA2"), ("&pound;", "\xC2\xA3"), ("&curren;", "\xC2\xA4"),
  ("&yen;", "\xC2\xA5"), ("&brvbar;", "\xC2\xA6"), ("&sect;", "\xC2\xA7"), ("&Dot;", "\xC2\xA8"),
  ("&die;", "\xC2\xA8"), ("&DoubleDot;", "\xC2\xA8"), ("&uml;", "\xC2\xA8"), ("&copy;", "\xC2\xA9"),
  ("&COPY;", "\xC2\xA9"), ("&ordf;", "\xC2\xAA"), ("&laquo;", "\xC2\xAB"), ("&not;", "\xC2\xAC"),
  ("&shy;", "\xC2\xAD"), ("&reg;", "\xC2\xAE"), ("&circledR;", "\xC2\xAE"), ("&REG;", "\xC2\xAE"),
  ("&macr;", "\xC2\xAF"), ("&OverBar;", "\xC2\xAF"), ("&strns;", "\xC2\xAF"), ("&deg;", "\xC2\xB0"),
  ("&plusmn;", "\xC2\xB1"), ("&pm;", "\xC2\xB1"), ("&PlusMinus;", "\xC2\xB1"), ("&sup2;", "\xC2\xB2"),
  ("&sup3;", "\xC2\xB3"), ("&acute;", "\xC2\xB4"), ("&DiacriticalAcute;", "\xC2\xB4"), ("&micro;", "\xC2\xB5"),
  ("&para;", "\xC2\xB6"), ("&middot;", "\xC2\xB7"), ("&centerdot;", "\xC2\xB7"), ("&CenterDot;", "\xC2\xB7"),
  ("&cedil;", "\xC2\xB8"), ("&Cedilla;", "\xC2\xB8"), ("&sup1;", "\xC2\xB9"), ("&ordm;", "\xC2\xBA"),
  ("&raquo;", "\xC2\xBB"), ("&frac14;", "\xC2\xBC"), ("&frac12;", "\xC2\xBD"), ("&half;", "\xC2\xBD"),
  ("&frac34;", "\xC2\xBE"), ("&iquest;", "\xC2\xBF"), ("&Agrave;", "\xC3\x80"), ("&Aacute;", "\xC3\x81"),
  ("&Acirc;", "\xC3\x82"), ("&Atilde;", "\xC3\x83"), ("&Auml;", "\xC3\x84"), ("&Aring;", "\xC3\x85"),
  ("&AElig;", "\xC3\x86"), ("&Ccedil;", "\xC3\x87"), ("&Egrave;", "\xC3\x88"), ("&Eacute;", "\xC3\x89"),
  ("&Ecirc;", "\xC3\x8A"), ("&Euml;", "\xC3\x8B"), ("&Igrave;", "\xC3\x8C"), ("&Iacute;", "\xC3\x8D"),
  ("&Icirc;", "\xC3\x8E"), ("&Iuml;", "\xC3\x8F"), ("&ETH;", "\xC3\x90"), ("&Ntilde;", "\xC3\x91"),
  ("&Ograve;", "\xC3\x92"), ("&Oacute;", "\xC3\x93"), ("&Ocirc;", "\xC3\x94"), ("&Otilde;", "\xC3\x95"),
  ("&Ouml;", "\xC3\x96"), ("&times;", "\xC3\x97"), ("&Oslash;", "\xC3\x98"), ("&Ugrave;", "\xC3\x99"),
  ("&Uacute;", "\xC3\x9A"), ("&Ucirc;", "\xC3\x9B"), ("&Uuml;", "\xC3\x9C"), ("&Yacute;", "\xC3\x9D"),
  ("&THORN;", "\xC3\x9E"), ("&szlig;", "\xC3\x9F"), ("&agrave;", "\xC3\xA0"), ("&aacute;", "\xC3\xA1"),
  ("&acirc;", "\xC3\xA2"), ("&atilde;", "\xC3\xA3"), ("&auml;", "\xC3\xA4"), ("&aring;", "\xC3\xA5"),
  ("&aelig;", "\xC3\xA6"), ("&ccedil;", "\xC3\xA7"), ("&egrave;", "\xC3\xA8"), ("&eacute;", "\xC3\xA9"),
  ("&ecirc;", "\xC3\xAA"), ("&euml;", "\xC3\xAB"), ("&igrave;", "\xC3\xAC"), ("&iacute;", "\xC3\xAD"),
  ("&icirc;", "\xC3\xAE"), ("&iuml;", "\xC3\xAF"), ("&eth;", "\xC3\xB0"), ("&ntilde;", "\xC3\xB1"),
  ("&ograve;", "\xC3\xB2"), ("&oacute;", "\xC3\xB3"), ("&ocirc;", "\xC3\xB4"), ("&otilde;", "\xC3\xB5"),
  ("&ouml;", "\xC3\xB6"), ("&divide;", "\xC3\xB7"), ("&div;", "\xC3\xB7"), ("&oslash;", "\xC3\xB8"),
  ("&ugrave;", "\xC3\xB9"), ("&uacute;", "\xC3\xBA"), ("&ucirc;", "\xC3\xBB"), ("&uuml;", "\xC3\xBC"),
  ("&yacute;", "\xC3\xBD"), ("&thorn;", "\xC3\xBE"), ("&yuml;", "\xC3\xBF"), ("&Amacr;", "\xC4\x80"),
  ("&amacr;", "\xC4\x81"), ("&Abreve;", "\xC4\x82"), ("&abreve;", "\xC4\x83"), ("&Aogon;", "\xC4\x84"),
  ("&aogon;", "\xC4\x85"), ("&Cacute;", "\xC4\x86"), ("&cacute;", "\xC4\x87"), ("&Ccirc;", "\xC4\x88"),
  ("&ccirc;", "\xC4\x89"), ("&Cdot;", "\xC4\x8A"), ("&cdot;", "\xC4\x8B"), ("&Ccaron;", "\xC4\x8C"),
  ("&ccaron;", "\xC4\x8D"), ("&Dcaron;", "\xC4\x8E"), ("&dcaron;", "\xC4\x8F"), ("&Dstrok;", "\xC4\x90"),
  ("&dstrok;", "\xC4\x91"), ("&Emacr;", "\xC4\x92"), ("&emacr;", "\xC4\x93"), ("&Edot;", "\xC4\x96"),
  ("&edot;", "\xC4\x97"), ("&Eogon;", "\xC4\x98"), ("&eogon;", "\xC4\x99"), ("&Ecaron;", "\xC4\x9A"),
  ("&ecaron;", "\xC4\x9B"), ("&Gcirc;", "\xC4\x9C"), ("&gcirc;", "\xC4\x9D"), ("&Gbreve;", "\xC4\x9E"),
  ("&gbreve;", "\xC4\x9F"), ("&Gdot;", "\xC4\xA0"), ("&gdot;", "\xC4\xA1"), ("&Gcedil;", "\xC4\xA2"),
  ("&Hcirc;", "\xC4\xA4"), ("&hcirc;", "\xC4\xA5"), ("&Hstrok;", "\xC4\xA6"), ("&hstrok;", "\xC4\xA7"),
  ("&Itilde;", "\xC4\xA8"), ("&itilde;", "\xC4\xA9"), ("&Imacr;", "\xC4\xAA"), ("&imacr;", "\xC4\xAB"),
  ("&Iogon;", "\xC4\xAE"), ("&iogon;", "\xC4\xAF"), ("&Idot;", "\xC4\xB0"), ("&imath;", "\xC4\xB1"),
  ("&inodot;", "\xC4\xB1"), ("&IJlig;", "\xC4\xB2"), ("&ijlig;", "\xC4\xB3"), ("&Jcirc;", "\xC4\xB4"),
  ("&jcirc;", "\xC4\xB5"), ("&Kcedil;", "\xC4\xB6"), ("&kcedil;", "\xC4\xB7"), ("&kgreen;", "\xC4\xB8"),
  ("&Lacute;", "\xC4\xB9"), ("&lacute;", "\xC4\xBA"), ("&Lcedil;", "\xC4\xBB"), ("&lcedil;", "\xC4\xBC"),
  ("&Lcaron;", "\xC4\xBD"), ("&lcaron;", "\xC4\xBE"), ("&Lmidot;", "\xC4\xBF"), ("&lmidot;", "\xC5\x80"),
  ("&Lstrok;", "\xC5\x81"), ("&lstrok;", "\xC5\x82"), ("&Nacute;", "\xC5\x83"), ("&nacute;", "\xC5\x84"),
  ("&Ncedil;", "\xC5\x85"), ("&ncedil;", "\xC5\x86"), ("&Ncaron;", "\xC5\x87"), ("&ncaron;", "\xC5\x88"),
  ("&napos;", "\xC5\x89"), ("&ENG;", "\xC5\x8A"), ("&eng;", "\xC5\x8B"), ("&Omacr;", "\xC5\x8C"),
  ("&omacr;", "\xC5\x8D"), ("&Odblac;", "\xC5\x90"), ("&odblac;", "\xC5\x91"), ("&OElig;", "\xC5\x92"),
  ("&oelig;", "\xC5\x93"), ("&Racute;", "\xC5\x94"), ("&racute;", "\xC5\x95"), ("&Rcedil;", "\xC5\x96"),
  ("&rcedil;", "\xC5\x97"), ("&Rcaron;", "\xC5\x98"), ("&rcaron;", "\xC5\x99"), ("&Sacute;", "\xC5\x9A"),
  ("&sacute;", "\xC5\x9B"), ("&Scirc;", "\xC5\x9C"), ("&scirc;", "\xC5\x9D"), ("&Scedil;", "\xC5\x9E"),
  ("&scedil;", "\xC5\x9F"), ("&Scaron;", "\xC5\xA0"), ("&scaron;", "\xC5\xA1"), ("&Tcedil;", "\xC5\xA2"),
  ("&tcedil;", "\xC5\xA3"), ("&Tcaron;", "\xC5\xA4"), ("&tcaron;", "\xC5\xA5"), ("&Tstrok;", "\xC5\xA6"),
  ("&tstrok;", "\xC5\xA7"), ("&Utilde;", "\xC5\xA8"), ("&utilde;", "\xC5\xA9"), ("&Umacr;", "\xC5\xAA"),
  ("&umacr;", "\xC5\xAB"), ("&Ubreve;", "\xC5\xAC"), ("&ubreve;", "\xC5\xAD"), ("&Uring;", "\xC5\xAE"),
  ("&uring;", "\xC5\xAF"), ("&Udblac;", "\xC5\xB0"), ("&udblac;", "\xC5\xB1"), ("&Uogon;", "\xC5\xB2"),
  ("&uogon;", "\xC5\xB3"), ("&Wcirc;", "\xC5\xB4"), ("&wcirc;", "\xC5\xB5"), ("&Ycirc;", "\xC5\xB6"),
  ("&ycirc;", "\xC5\xB7"), ("&Yuml;", "\xC5\xB8"), ("&Zacute;", "\xC5\xB9"), ("&zacute;", "\xC5\xBA"),
  ("&Zdot;", "\xC5\xBB"), ("&zdot;", "\xC5\xBC"), ("&Zcaron;", "\xC5\xBD"), ("&zcaron;", "\xC5\xBE"),
  ("&fnof;", "\xC6\x92"), ("&imped;", "\xC6\xB5"), ("&gacute;", "\xC7\xB5"), ("&jmath;", "\xC8\xB7"),
  ("&circ;", "\xCB\x86"), ("&caron;", "\xCB\x87"), ("&Hacek;", "\xCB\x87"), ("&breve;", "\xCB\x98"),
  ("&Breve;", "\xCB\x98"), ("&dot;", "\xCB\x99"), ("&DiacriticalDot;", "\xCB\x99"), ("&ring;", "\xCB\x9A"),
  ("&ogon;", "\xCB\x9B"), ("&tilde;", "\xCB\x9C"), ("&DiacriticalTilde;", "\xCB\x9C"), ("&dblac;", "\xCB\x9D"),
  ("&DiacriticalDoubleAcute;", "\xCB\x9D"), ("&DownBreve;", "\xCC\x91"), ("&UnderBar;", "\xCC\xB2"),
  ("&Alpha;", "\xCE\x91"), ("&Beta;", "\xCE\x92"), ("&Gamma;", "\xCE\x93"), ("&Delta;", "\xCE\x94"),
  ("&Epsilon;", "\xCE\x95"), ("&Zeta;", "\xCE\x96"), ("&Eta;", "\xCE\x97"), ("&Theta;", "\xCE\x98"),
  ("&Iota;", "\xCE\x99"), ("&Kappa;", "\xCE\x9A"), ("&Lambda;", "\xCE\x9B"), ("&Mu;", "\xCE\x9C"),
  ("&Nu;", "\xCE\x9D"), ("&Xi;", "\xCE\x9E"), ("&Omicron;", "\xCE\x9F"), ("&Pi;", "\xCE\xA0"), ("&Rho;", "\xCE\xA1"),
  ("&Sigma;", "\xCE\xA3"), ("&Tau;", "\xCE\xA4"), ("&Upsilon;", "\xCE\xA5"), ("&Phi;", "\xCE\xA6"),
  ("&Chi;", "\xCE\xA7"), ("&Psi;", "\xCE\xA8"), ("&Omega;", "\xCE\xA9"), ("&alpha;", "\xCE\xB1"),
  ("&beta;", "\xCE\xB2"), ("&gamma;", "\xCE\xB3"), ("&delta;", "\xCE\xB4"), ("&epsiv;", "\xCE\xB5"),
  ("&varepsilon;", "\xCE\xB5"), ("&epsilon;", "\xCE\xB5"), ("&zeta;", "\xCE\xB6"), ("&eta;", "\xCE\xB7"),
  ("&theta;", "\xCE\xB8"), ("&iota;", "\xCE\xB9"), ("&kappa;", "\xCE\xBA"), ("&lambda;", "\xCE\xBB"),
  ("&mu;", "\xCE\xBC"), ("&nu;", "\xCE\xBD"), ("&xi;", "\xCE\xBE"), ("&omicron;", "\xCE\xBF"), ("&pi;", "\xCF\x80"),
  ("&rho;", "\xCF\x81"), ("&sigmav;", "\xCF\x82"), ("&varsigma;", "\xCF\x82"), ("&sigmaf;", "\xCF\x82"),
  ("&sigma;", "\xCF\x83"), ("&tau;", "\xCF\x84"), ("&upsi;", "\xCF\x85"), ("&upsilon;", "\xCF\x85"),
  ("&phi;", "\xCF\x86"), ("&phiv;", "\xCF\x86"), ("&varphi;", "\xCF\x86"), ("&chi;", "\xCF\x87"),
  ("&psi;", "\xCF\x88"), ("&omega;", "\xCF\x89"), ("&thetav;", "\xCF\x91"), ("&vartheta;", "\xCF\x91"),
  ("&thetasym;", "\xCF\x91"), ("&Upsi;", "\xCF\x92"), ("&upsih;", "\xCF\x92"), ("&straightphi;", "\xCF\x95"),
  ("&piv;", "\xCF\x96"), ("&varpi;", "\xCF\x96"), ("&Gammad;", "\xCF\x9C"), ("&gammad;", "\xCF\x9D"),
  ("&digamma;", "\xCF\x9D"), ("&kappav;", "\xCF\xB0"), ("&varkappa;", "\xCF\xB0"), ("&rhov;", "\xCF\xB1"),
  ("&varrho;", "\xCF\xB1"), ("&epsi;", "\xCF\xB5"), ("&straightepsilon;", "\xCF\xB5"), ("&bepsi;", "\xCF\xB6"),
  ("&backepsilon;", "\xCF\xB6"), ("&IOcy;", "\xD0\x81"), ("&DJcy;", "\xD0\x82"), ("&GJcy;", "\xD0\x83"),
  ("&Jukcy;", "\xD0\x84"), ("&DScy;", "\xD0\x85"), ("&Iukcy;", "\xD0\x86"), ("&YIcy;", "\xD0\x87"),
  ("&Jsercy;", "\xD0\x88"), ("&LJcy;", "\xD0\x89"), ("&NJcy;", "\xD0\x8A"), ("&TSHcy;", "\xD0\x8B"),
  ("&KJcy;", "\xD0\x8C"), ("&Ubrcy;", "\xD0\x8E"), ("&DZcy;", "\xD0\x8F"), ("&Acy;", "\xD0\x90"),
  ("&Bcy;", "\xD0\x91"), ("&Vcy;", "\xD0\x92"), ("&Gcy;", "\xD0\x93"), ("&Dcy;", "\xD0\x94"), ("&IEcy;", "\xD0\x95"),
  ("&ZHcy;", "\xD0\x96"), ("&Zcy;", "\xD0\x97"), ("&Icy;", "\xD0\x98"), ("&Jcy;", "\xD0\x99"), ("&Kcy;", "\xD0\x9A"),
  ("&Lcy;", "\xD0\x9B"), ("&Mcy;", "\xD0\x9C"), ("&Ncy;", "\xD0\x9D"), ("&Ocy;", "\xD0\x9E"), ("&Pcy;", "\xD0\x9F"),
  ("&Rcy;", "\xD0\xA0"), ("&Scy;", "\xD0\xA1"), ("&Tcy;", "\xD0\xA2"), ("&Ucy;", "\xD0\xA3"), ("&Fcy;", "\xD0\xA4"),
  ("&KHcy;", "\xD0\xA5"), ("&TScy;", "\xD0\xA6"), ("&CHcy;", "\xD0\xA7"), ("&SHcy;", "\xD0\xA8"),
  ("&SHCHcy;", "\xD0\xA9"), ("&HARDcy;", "\xD0\xAA"), ("&Ycy;", "\xD0\xAB"), ("&SOFTcy;", "\xD0\xAC"),
  ("&Ecy;", "\xD0\xAD"), ("&YUcy;", "\xD0\xAE"), ("&YAcy;", "\xD0\xAF"), ("&acy;", "\xD0\xB0"), ("&bcy;", "\xD0\xB1"),
  ("&vcy;", "\xD0\xB2"), ("&gcy;", "\xD0\xB3"), ("&dcy;", "\xD0\xB4"), ("&iecy;", "\xD0\xB5"), ("&zhcy;", "\xD0\xB6"),
  ("&zcy;", "\xD0\xB7"), ("&icy;", "\xD0\xB8"), ("&jcy;", "\xD0\xB9"), ("&kcy;", "\xD0\xBA"), ("&lcy;", "\xD0\xBB"),
  ("&mcy;", "\xD0\xBC"), ("&ncy;", "\xD0\xBD"), ("&ocy;", "\xD0\xBE"), ("&pcy;", "\xD0\xBF"), ("&rcy;", "\xD1\x80"),
  ("&scy;", "\xD1\x81"), ("&tcy;", "\xD1\x82"), ("&ucy;", "\xD1\x83"), ("&fcy;", "\xD1\x84"), ("&khcy;", "\xD1\x85"),
  ("&tscy;", "\xD1\x86"), ("&chcy;", "\xD1\x87"), ("&shcy;", "\xD1\x88"), ("&shchcy;", "\xD1\x89"),
  ("&hardcy;", "\xD1\x8A"), ("&ycy;", "\xD1\x8B"), ("&softcy;", "\xD1\x8C"), ("&ecy;", "\xD1\x8D"),
  ("&yucy;", "\xD1\x8E"), ("&yacy;", "\xD1\x8F"), ("&iocy;", "\xD1\x91"), ("&djcy;", "\xD1\x92"),
  ("&gjcy;", "\xD1\x93"), ("&jukcy;", "\xD1\x94"), ("&dscy;", "\xD1\x95"), ("&iukcy;", "\xD1\x96"),
  ("&yicy;", "\xD1\x97"), ("&jsercy;", "\xD1\x98"), ("&ljcy;", "\xD1\x99"), ("&njcy;", "\xD1\x9A"),
  ("&tshcy;", "\xD1\x9B"), ("&kjcy;", "\xD1\x9C"), ("&ubrcy;", "\xD1\x9E"), ("&dzcy;", "\xD1\x9F"),
  ("&ensp;", "\xE2\x80\x82"), ("&emsp;", "\xE2\x80\x83"), ("&emsp13;", "\xE2\x80\x84"), ("&emsp14;", "\xE2\x80\x85"),
  ("&numsp;", "\xE2\x80\x87"), ("&puncsp;", "\xE2\x80\x88"), ("&thinsp;", "\xE2\x80\x89"),
  ("&ThinSpace;", "\xE2\x80\x89"), ("&hairsp;", "\xE2\x80\x8A"), ("&VeryThinSpace;", "\xE2\x80\x8A"),
  ("&ZeroWidthSpace;", "\xE2\x80\x8B"), ("&NegativeVeryThinSpace;", "\xE2\x80\x8B"),
  ("&NegativeThinSpace;", "\xE2\x80\x8B"), ("&NegativeMediumSpace;", "\xE2\x80\x8B"),
  ("&NegativeThickSpace;", "\xE2\x80\x8B"), ("&zwnj;", "\xE2\x80\x8C"), ("&zwj;", "\xE2\x80\x8D"),
  ("&lrm;", "\xE2\x80\x8E"), ("&rlm;", "\xE2\x80\x8F"), ("&hyphen;", "\xE2\x80\x90"), ("&dash;", "\xE2\x80\x90"),
  ("&ndash;", "\xE2\x80\x93"), ("&mdash;", "\xE2\x80\x94"), ("&horbar;", "\xE2\x80\x95"),
  ("&Verbar;", "\xE2\x80\x96"), ("&Vert;", "\xE2\x80\x96"), ("&lsquo;", "\xE2\x80\x98"),
  ("&OpenCurlyQuote;", "\xE2\x80\x98"), ("&rsquo;", "\xE2\x80\x99"), ("&rsquor;", "\xE2\x80\x99"),
  ("&CloseCurlyQuote;", "\xE2\x80\x99"), ("&lsquor;", "\xE2\x80\x9A"), ("&sbquo;", "\xE2\x80\x9A"),
  ("&ldquo;", "\xE2\x80\x9C"), ("&OpenCurlyDoubleQuote;", "\xE2\x80\x9C"), ("&rdquo;", "\xE2\x80\x9D"),
  ("&rdquor;", "\xE2\x80\x9D"), ("&CloseCurlyDoubleQuote;", "\xE2\x80\x9D"), ("&ldquor;", "\xE2\x80\x9E"),
  ("&bdquo;", "\xE2\x80\x9E"), ("&dagger;", "\xE2\x80\xA0"), ("&Dagger;", "\xE2\x80\xA1"),
  ("&ddagger;", "\xE2\x80\xA1"), ("&bull;", "\xE2\x80\xA2"), ("&bullet;", "\xE2\x80\xA2"), ("&nldr;", "\xE2\x80\xA5"),
  ("&hellip;", "\xE2\x80\xA6"), ("&mldr;", "\xE2\x80\xA6"), ("&permil;", "\xE2\x80\xB0"),
  ("&pertenk;", "\xE2\x80\xB1"), ("&prime;", "\xE2\x80\xB2"), ("&Prime;", "\xE2\x80\xB3"),
  ("&tprime;", "\xE2\x80\xB4"), ("&bprime;", "\xE2\x80\xB5"), ("&backprime;", "\xE2\x80\xB5"),
  ("&lsaquo;", "\xE2\x80\xB9"), ("&rsaquo;", "\xE2\x80\xBA"), ("&oline;", "\xE2\x80\xBE"),
  ("&caret;", "\xE2\x81\x81"), ("&hybull;", "\xE2\x81\x83"), ("&frasl;", "\xE2\x81\x84"), ("&bsemi;", "\xE2\x81\x8F"),
  ("&qprime;", "\xE2\x81\x97"), ("&MediumSpace;", "\xE2\x81\x9F"), ("&NoBreak;", "\xE2\x81\xA0"),
  ("&ApplyFunction;", "\xE2\x81\xA1"), ("&af;", "\xE2\x81\xA1"), ("&InvisibleTimes;", "\xE2\x81\xA2"),
  ("&it;", "\xE2\x81\xA2"), ("&InvisibleComma;", "\xE2\x81\xA3"), ("&ic;", "\xE2\x81\xA3"),
  ("&euro;", "\xE2\x82\xAC"), ("&tdot;", "\xE2\x83\x9B"), ("&TripleDot;", "\xE2\x83\x9B"),
  ("&DotDot;", "\xE2\x83\x9C"), ("&Copf;", "\xE2\x84\x82"), ("&complexes;", "\xE2\x84\x82"),
  ("&incare;", "\xE2\x84\x85"), ("&gscr;", "\xE2\x84\x8A"), ("&hamilt;", "\xE2\x84\x8B"),
  ("&HilbertSpace;", "\xE2\x84\x8B"), ("&Hscr;", "\xE2\x84\x8B"), ("&Hfr;", "\xE2\x84\x8C"),
  ("&Poincareplane;", "\xE2\x84\x8C"), ("&quaternions;", "\xE2\x84\x8D"), ("&Hopf;", "\xE2\x84\x8D"),
  ("&planckh;", "\xE2\x84\x8E"), ("&planck;", "\xE2\x84\x8F"), ("&hbar;", "\xE2\x84\x8F"),
  ("&plankv;", "\xE2\x84\x8F"), ("&hslash;", "\xE2\x84\x8F"), ("&Iscr;", "\xE2\x84\x90"),
  ("&imagline;", "\xE2\x84\x90"), ("&image;", "\xE2\x84\x91"), ("&Im;", "\xE2\x84\x91"),
  ("&imagpart;", "\xE2\x84\x91"), ("&Ifr;", "\xE2\x84\x91"), ("&Lscr;", "\xE2\x84\x92"), ("&lagran;", "\xE2\x84\x92"),
  ("&Laplacetrf;", "\xE2\x84\x92"), ("&ell;", "\xE2\x84\x93"), ("&Nopf;", "\xE2\x84\x95"),
  ("&naturals;", "\xE2\x84\x95"), ("&numero;", "\xE2\x84\x96"), ("&copysr;", "\xE2\x84\x97"),
  ("&weierp;", "\xE2\x84\x98"), ("&wp;", "\xE2\x84\x98"), ("&Popf;", "\xE2\x84\x99"), ("&primes;", "\xE2\x84\x99"),
  ("&rationals;", "\xE2\x84\x9A"), ("&Qopf;", "\xE2\x84\x9A"), ("&Rscr;", "\xE2\x84\x9B"),
  ("&realine;", "\xE2\x84\x9B"), ("&real;", "\xE2\x84\x9C"), ("&Re;", "\xE2\x84\x9C"), ("&realpart;", "\xE2\x84\x9C"),
  ("&Rfr;", "\xE2\x84\x9C"), ("&reals;", "\xE2\x84\x9D"), ("&Ropf;", "\xE2\x84\x9D"), ("&rx;", "\xE2\x84\x9E"),
  ("&trade;", "\xE2\x84\xA2"), ("&TRADE;", "\xE2\x84\xA2"), ("&integers;", "\xE2\x84\xA4"),
  ("&Zopf;", "\xE2\x84\xA4"), ("&ohm;", "\xE2\x84\xA6"), ("&mho;", "\xE2\x84\xA7"), ("&Zfr;", "\xE2\x84\xA8"),
  ("&zeetrf;", "\xE2\x84\xA8"), ("&iiota;", "\xE2\x84\xA9"), ("&angst;", "\xE2\x84\xAB"),
  ("&bernou;", "\xE2\x84\xAC"), ("&Bernoullis;", "\xE2\x84\xAC"), ("&Bscr;", "\xE2\x84\xAC"),
  ("&Cfr;", "\xE2\x84\xAD"), ("&Cayleys;", "\xE2\x84\xAD"), ("&escr;", "\xE2\x84\xAF"), ("&Escr;", "\xE2\x84\xB0"),
  ("&expectation;", "\xE2\x84\xB0"), ("&Fscr;", "\xE2\x84\xB1"), ("&Fouriertrf;", "\xE2\x84\xB1"),
  ("&phmmat;", "\xE2\x84\xB3"), ("&Mellintrf;", "\xE2\x84\xB3"), ("&Mscr;", "\xE2\x84\xB3"),
  ("&order;", "\xE2\x84\xB4"), ("&orderof;", "\xE2\x84\xB4"), ("&oscr;", "\xE2\x84\xB4"),
  ("&alefsym;", "\xE2\x84\xB5"), ("&aleph;", "\xE2\x84\xB5"), ("&beth;", "\xE2\x84\xB6"), ("&gimel;", "\xE2\x84\xB7"),
  ("&daleth;", "\xE2\x84\xB8"), ("&CapitalDifferentialD;", "\xE2\x85\x85"), ("&DD;", "\xE2\x85\x85"),
  ("&DifferentialD;", "\xE2\x85\x86"), ("&dd;", "\xE2\x85\x86"), ("&ExponentialE;", "\xE2\x85\x87"),
  ("&exponentiale;", "\xE2\x85\x87"), ("&ee;", "\xE2\x85\x87"), ("&ImaginaryI;", "\xE2\x85\x88"),
  ("&ii;", "\xE2\x85\x88"), ("&frac13;", "\xE2\x85\x93"), ("&frac23;", "\xE2\x85\x94"), ("&frac15;", "\xE2\x85\x95"),
  ("&frac25;", "\xE2\x85\x96"), ("&frac35;", "\xE2\x85\x97"), ("&frac45;", "\xE2\x85\x98"),
  ("&frac16;", "\xE2\x85\x99"), ("&frac56;", "\xE2\x85\x9A"), ("&frac18;", "\xE2\x85\x9B"),
  ("&frac38;", "\xE2\x85\x9C"), ("&frac58;", "\xE2\x85\x9D"), ("&frac78;", "\xE2\x85\x9E"),
  ("&larr;", "\xE2\x86\x90"), ("&leftarrow;", "\xE2\x86\x90"), ("&LeftArrow;", "\xE2\x86\x90"),
  ("&slarr;", "\xE2\x86\x90"), ("&ShortLeftArrow;", "\xE2\x86\x90"), ("&uarr;", "\xE2\x86\x91"),
  ("&uparrow;", "\xE2\x86\x91"), ("&UpArrow;", "\xE2\x86\x91"), ("&ShortUpArrow;", "\xE2\x86\x91"),
  ("&rarr;", "\xE2\x86\x92"), ("&rightarrow;", "\xE2\x86\x92"), ("&RightArrow;", "\xE2\x86\x92"),
  ("&srarr;", "\xE2\x86\x92"), ("&ShortRightArrow;", "\xE2\x86\x92"), ("&darr;", "\xE2\x86\x93"),
  ("&downarrow;", "\xE2\x86\x93"), ("&DownArrow;", "\xE2\x86\x93"), ("&ShortDownArrow;", "\xE2\x86\x93"),
  ("&harr;", "\xE2\x86\x94"), ("&leftrightarrow;", "\xE2\x86\x94"), ("&LeftRightArrow;", "\xE2\x86\x94"),
  ("&varr;", "\xE2\x86\x95"), ("&updownarrow;", "\xE2\x86\x95"), ("&UpDownArrow;", "\xE2\x86\x95"),
  ("&nwarr;", "\xE2\x86\x96"), ("&UpperLeftArrow;", "\xE2\x86\x96"), ("&nwarrow;", "\xE2\x86\x96"),
  ("&nearr;", "\xE2\x86\x97"), ("&UpperRightArrow;", "\xE2\x86\x97"), ("&nearrow;", "\xE2\x86\x97"),
  ("&searr;", "\xE2\x86\x98"), ("&searrow;", "\xE2\x86\x98"), ("&LowerRightArrow;", "\xE2\x86\x98"),
  ("&swarr;", "\xE2\x86\x99"), ("&swarrow;", "\xE2\x86\x99"), ("&LowerLeftArrow;", "\xE2\x86\x99"),
  ("&nlarr;", "\xE2\x86\x9A"), ("&nleftarrow;", "\xE2\x86\x9A"), ("&nrarr;", "\xE2\x86\x9B"),
  ("&nrightarrow;", "\xE2\x86\x9B"), ("&rarrw;", "\xE2\x86\x9D"), ("&rightsquigarrow;", "\xE2\x86\x9D"),
  ("&Larr;", "\xE2\x86\x9E"), ("&twoheadleftarrow;", "\xE2\x86\x9E"), ("&Uarr;", "\xE2\x86\x9F"),
  ("&Rarr;", "\xE2\x86\xA0"), ("&twoheadrightarrow;", "\xE2\x86\xA0"), ("&Darr;", "\xE2\x86\xA1"),
  ("&larrtl;", "\xE2\x86\xA2"), ("&leftarrowtail;", "\xE2\x86\xA2"), ("&rarrtl;", "\xE2\x86\xA3"),
  ("&rightarrowtail;", "\xE2\x86\xA3"), ("&LeftTeeArrow;", "\xE2\x86\xA4"), ("&mapstoleft;", "\xE2\x86\xA4"),
  ("&UpTeeArrow;", "\xE2\x86\xA5"), ("&mapstoup;", "\xE2\x86\xA5"), ("&map;", "\xE2\x86\xA6"),
  ("&RightTeeArrow;", "\xE2\x86\xA6"), ("&mapsto;", "\xE2\x86\xA6"), ("&DownTeeArrow;", "\xE2\x86\xA7"),
  ("&mapstodown;", "\xE2\x86\xA7"), ("&larrhk;", "\xE2\x86\xA9"), ("&hookleftarrow;", "\xE2\x86\xA9"),
  ("&rarrhk;", "\xE2\x86\xAA"), ("&hookrightarrow;", "\xE2\x86\xAA"), ("&larrlp;", "\xE2\x86\xAB"),
  ("&looparrowleft;", "\xE2\x86\xAB"), ("&rarrlp;", "\xE2\x86\xAC"), ("&looparrowright;", "\xE2\x86\xAC"),
  ("&harrw;", "\xE2\x86\xAD"), ("&leftrightsquigarrow;", "\xE2\x86\xAD"), ("&nharr;", "\xE2\x86\xAE"),
  ("&nleftrightarrow;", "\xE2\x86\xAE"), ("&lsh;", "\xE2\x86\xB0"), ("&Lsh;", "\xE2\x86\xB0"),
  ("&rsh;", "\xE2\x86\xB1"), ("&Rsh;", "\xE2\x86\xB1"), ("&ldsh;", "\xE2\x86\xB2"), ("&rdsh;", "\xE2\x86\xB3"),
  ("&crarr;", "\xE2\x86\xB5"), ("&cularr;", "\xE2\x86\xB6"), ("&curvearrowleft;", "\xE2\x86\xB6"),
  ("&curarr;", "\xE2\x86\xB7"), ("&curvearrowright;", "\xE2\x86\xB7"), ("&olarr;", "\xE2\x86\xBA"),
  ("&circlearrowleft;", "\xE2\x86\xBA"), ("&orarr;", "\xE2\x86\xBB"), ("&circlearrowright;", "\xE2\x86\xBB"),
  ("&lharu;", "\xE2\x86\xBC"), ("&LeftVector;", "\xE2\x86\xBC"), ("&leftharpoonup;", "\xE2\x86\xBC"),
  ("&lhard;", "\xE2\x86\xBD"), ("&leftharpoondown;", "\xE2\x86\xBD"), ("&DownLeftVector;", "\xE2\x86\xBD"),
  ("&uharr;", "\xE2\x86\xBE"), ("&upharpoonright;", "\xE2\x86\xBE"), ("&RightUpVector;", "\xE2\x86\xBE"),
  ("&uharl;", "\xE2\x86\xBF"), ("&upharpoonleft;", "\xE2\x86\xBF"), ("&LeftUpVector;", "\xE2\x86\xBF"),
  ("&rharu;", "\xE2\x87\x80"), ("&RightVector;", "\xE2\x87\x80"), ("&rightharpoonup;", "\xE2\x87\x80"),
  ("&rhard;", "\xE2\x87\x81"), ("&rightharpoondown;", "\xE2\x87\x81"), ("&DownRightVector;", "\xE2\x87\x81"),
  ("&dharr;", "\xE2\x87\x82"), ("&RightDownVector;", "\xE2\x87\x82"), ("&downharpoonright;", "\xE2\x87\x82"),
  ("&dharl;", "\xE2\x87\x83"), ("&LeftDownVector;", "\xE2\x87\x83"), ("&downharpoonleft;", "\xE2\x87\x83"),
  ("&rlarr;", "\xE2\x87\x84"), ("&rightleftarrows;", "\xE2\x87\x84"), ("&RightArrowLeftArrow;", "\xE2\x87\x84"),
  ("&udarr;", "\xE2\x87\x85"), ("&UpArrowDownArrow;", "\xE2\x87\x85"), ("&lrarr;", "\xE2\x87\x86"),
  ("&leftrightarrows;", "\xE2\x87\x86"), ("&LeftArrowRightArrow;", "\xE2\x87\x86"), ("&llarr;", "\xE2\x87\x87"),
  ("&leftleftarrows;", "\xE2\x87\x87"), ("&uuarr;", "\xE2\x87\x88"), ("&upuparrows;", "\xE2\x87\x88"),
  ("&rrarr;", "\xE2\x87\x89"), ("&rightrightarrows;", "\xE2\x87\x89"), ("&ddarr;", "\xE2\x87\x8A"),
  ("&downdownarrows;", "\xE2\x87\x8A"), ("&lrhar;", "\xE2\x87\x8B"), ("&ReverseEquilibrium;", "\xE2\x87\x8B"),
  ("&leftrightharpoons;", "\xE2\x87\x8B"), ("&rlhar;", "\xE2\x87\x8C"), ("&rightleftharpoons;", "\xE2\x87\x8C"),
  ("&Equilibrium;", "\xE2\x87\x8C"), ("&nlArr;", "\xE2\x87\x8D"), ("&nLeftarrow;", "\xE2\x87\x8D"),
  ("&nhArr;", "\xE2\x87\x8E"), ("&nLeftrightarrow;", "\xE2\x87\x8E"), ("&nrArr;", "\xE2\x87\x8F"),
  ("&nRightarrow;", "\xE2\x87\x8F"), ("&lArr;", "\xE2\x87\x90"), ("&Leftarrow;", "\xE2\x87\x90"),
  ("&DoubleLeftArrow;", "\xE2\x87\x90"), ("&uArr;", "\xE2\x87\x91"), ("&Uparrow;", "\xE2\x87\x91"),
  ("&DoubleUpArrow;", "\xE2\x87\x91"), ("&rArr;", "\xE2\x87\x92"), ("&Rightarrow;", "\xE2\x87\x92"),
  ("&Implies;", "\xE2\x87\x92"), ("&DoubleRightArrow;", "\xE2\x87\x92"), ("&dArr;", "\xE2\x87\x93"),
  ("&Downarrow;", "\xE2\x87\x93"), ("&DoubleDownArrow;", "\xE2\x87\x93"), ("&hArr;", "\xE2\x87\x94"),
  ("&Leftrightarrow;", "\xE2\x87\x94"), ("&DoubleLeftRightArrow;", "\xE2\x87\x94"), ("&iff;", "\xE2\x87\x94"),
  ("&vArr;", "\xE2\x87\x95"), ("&Updownarrow;", "\xE2\x87\x95"), ("&DoubleUpDownArrow;", "\xE2\x87\x95"),
  ("&nwArr;", "\xE2\x87\x96"), ("&neArr;", "\xE2\x87\x97"), ("&seArr;", "\xE2\x87\x98"), ("&swArr;", "\xE2\x87\x99"),
  ("&lAarr;", "\xE2\x87\x9A"), ("&Lleftarrow;", "\xE2\x87\x9A"), ("&rAarr;", "\xE2\x87\x9B"),
  ("&Rrightarrow;", "\xE2\x87\x9B"), ("&zigrarr;", "\xE2\x87\x9D"), ("&larrb;", "\xE2\x87\xA4"),
  ("&LeftArrowBar;", "\xE2\x87\xA4"), ("&rarrb;", "\xE2\x87\xA5"), ("&RightArrowBar;", "\xE2\x87\xA5"),
  ("&duarr;", "\xE2\x87\xB5"), ("&DownArrowUpArrow;", "\xE2\x87\xB5"), ("&loarr;", "\xE2\x87\xBD"),
  ("&roarr;", "\xE2\x87\xBE"), ("&hoarr;", "\xE2\x87\xBF"), ("&forall;", "\xE2\x88\x80"),
  ("&ForAll;", "\xE2\x88\x80"), ("&comp;", "\xE2\x88\x81"), ("&complement;", "\xE2\x88\x81"),
  ("&part;", "\xE2\x88\x82"), ("&PartialD;", "\xE2\x88\x82"), ("&exist;", "\xE2\x88\x83"),
  ("&Exists;", "\xE2\x88\x83"), ("&nexist;", "\xE2\x88\x84"), ("&NotExists;", "\xE2\x88\x84"),
  ("&nexists;", "\xE2\x88\x84"), ("&empty;", "\xE2\x88\x85"), ("&emptyset;", "\xE2\x88\x85"),
  ("&emptyv;", "\xE2\x88\x85"), ("&varnothing;", "\xE2\x88\x85"), ("&nabla;", "\xE2\x88\x87"),
  ("&Del;", "\xE2\x88\x87"), ("&isin;", "\xE2\x88\x88"), ("&isinv;", "\xE2\x88\x88"), ("&Element;", "\xE2\x88\x88"),
  ("&in;", "\xE2\x88\x88"), ("&notin;", "\xE2\x88\x89"), ("&NotElement;", "\xE2\x88\x89"),
  ("&notinva;", "\xE2\x88\x89"), ("&niv;", "\xE2\x88\x8B"), ("&ReverseElement;", "\xE2\x88\x8B"),
  ("&ni;", "\xE2\x88\x8B"), ("&SuchThat;", "\xE2\x88\x8B"), ("&notni;", "\xE2\x88\x8C"),
  ("&notniva;", "\xE2\x88\x8C"), ("&NotReverseElement;", "\xE2\x88\x8C"), ("&prod;", "\xE2\x88\x8F"),
  ("&Product;", "\xE2\x88\x8F"), ("&coprod;", "\xE2\x88\x90"), ("&Coproduct;", "\xE2\x88\x90"),
  ("&sum;", "\xE2\x88\x91"), ("&Sum;", "\xE2\x88\x91"), ("&minus;", "\xE2\x88\x92"), ("&mnplus;", "\xE2\x88\x93"),
  ("&mp;", "\xE2\x88\x93"), ("&MinusPlus;", "\xE2\x88\x93"), ("&plusdo;", "\xE2\x88\x94"),
  ("&dotplus;", "\xE2\x88\x94"), ("&setmn;", "\xE2\x88\x96"), ("&setminus;", "\xE2\x88\x96"),
  ("&Backslash;", "\xE2\x88\x96"), ("&ssetmn;", "\xE2\x88\x96"), ("&smallsetminus;", "\xE2\x88\x96"),
  ("&lowast;", "\xE2\x88\x97"), ("&compfn;", "\xE2\x88\x98"), ("&SmallCircle;", "\xE2\x88\x98"),
  ("&radic;", "\xE2\x88\x9A"), ("&Sqrt;", "\xE2\x88\x9A"), ("&prop;", "\xE2\x88\x9D"), ("&propto;", "\xE2\x88\x9D"),
  ("&Proportional;", "\xE2\x88\x9D"), ("&vprop;", "\xE2\x88\x9D"), ("&varpropto;", "\xE2\x88\x9D"),
  ("&infin;", "\xE2\x88\x9E"), ("&angrt;", "\xE2\x88\x9F"), ("&ang;", "\xE2\x88\xA0"), ("&angle;", "\xE2\x88\xA0"),
  ("&angmsd;", "\xE2\x88\xA1"), ("&measuredangle;", "\xE2\x88\xA1"), ("&angsph;", "\xE2\x88\xA2"),
  ("&mid;", "\xE2\x88\xA3"), ("&VerticalBar;", "\xE2\x88\xA3"), ("&smid;", "\xE2\x88\xA3"),
  ("&shortmid;", "\xE2\x88\xA3"), ("&nmid;", "\xE2\x88\xA4"), ("&NotVerticalBar;", "\xE2\x88\xA4"),
  ("&nsmid;", "\xE2\x88\xA4"), ("&nshortmid;", "\xE2\x88\xA4"), ("&par;", "\xE2\x88\xA5"),
  ("&parallel;", "\xE2\x88\xA5"), ("&DoubleVerticalBar;", "\xE2\x88\xA5"), ("&spar;", "\xE2\x88\xA5"),
  ("&shortparallel;", "\xE2\x88\xA5"), ("&npar;", "\xE2\x88\xA6"), ("&nparallel;", "\xE2\x88\xA6"),
  ("&NotDoubleVerticalBar;", "\xE2\x88\xA6"), ("&nspar;", "\xE2\x88\xA6"), ("&nshortparallel;", "\xE2\x88\xA6"),
  ("&and;", "\xE2\x88\xA7"), ("&wedge;", "\xE2\x88\xA7"), ("&or;", "\xE2\x88\xA8"), ("&vee;", "\xE2\x88\xA8"),
  ("&cap;", "\xE2\x88\xA9"), ("&cup;", "\xE2\x88\xAA"), ("&int;", "\xE2\x88\xAB"), ("&Integral;", "\xE2\x88\xAB"),
  ("&Int;", "\xE2\x88\xAC"), ("&tint;", "\xE2\x88\xAD"), ("&iiint;", "\xE2\x88\xAD"), ("&conint;", "\xE2\x88\xAE"),
  ("&oint;", "\xE2\x88\xAE"), ("&ContourIntegral;", "\xE2\x88\xAE"), ("&Conint;", "\xE2\x88\xAF"),
  ("&DoubleContourIntegral;", "\xE2\x88\xAF"), ("&Cconint;", "\xE2\x88\xB0"), ("&cwint;", "\xE2\x88\xB1"),
  ("&cwconint;", "\xE2\x88\xB2"), ("&ClockwiseContourIntegral;", "\xE2\x88\xB2"), ("&awconint;", "\xE2\x88\xB3"),
  ("&CounterClockwiseContourIntegral;", "\xE2\x88\xB3"), ("&there4;", "\xE2\x88\xB4"),
  ("&therefore;", "\xE2\x88\xB4"), ("&Therefore;", "\xE2\x88\xB4"), ("&becaus;", "\xE2\x88\xB5"),
  ("&because;", "\xE2\x88\xB5"), ("&Because;", "\xE2\x88\xB5"), ("&ratio;", "\xE2\x88\xB6"),
  ("&Colon;", "\xE2\x88\xB7"), ("&Proportion;", "\xE2\x88\xB7"), ("&minusd;", "\xE2\x88\xB8"),
  ("&dotminus;", "\xE2\x88\xB8"), ("&mDDot;", "\xE2\x88\xBA"), ("&homtht;", "\xE2\x88\xBB"),
  ("&sim;", "\xE2\x88\xBC"), ("&Tilde;", "\xE2\x88\xBC"), ("&thksim;", "\xE2\x88\xBC"),
  ("&thicksim;", "\xE2\x88\xBC"), ("&bsim;", "\xE2\x88\xBD"), ("&backsim;", "\xE2\x88\xBD"), ("&ac;", "\xE2\x88\xBE"),
  ("&mstpos;", "\xE2\x88\xBE"), ("&acd;", "\xE2\x88\xBF"), ("&wreath;", "\xE2\x89\x80"),
  ("&VerticalTilde;", "\xE2\x89\x80"), ("&wr;", "\xE2\x89\x80"), ("&nsim;", "\xE2\x89\x81"),
  ("&NotTilde;", "\xE2\x89\x81"), ("&esim;", "\xE2\x89\x82"), ("&EqualTilde;", "\xE2\x89\x82"),
  ("&eqsim;", "\xE2\x89\x82"), ("&sime;", "\xE2\x89\x83"), ("&TildeEqual;", "\xE2\x89\x83"),
  ("&simeq;", "\xE2\x89\x83"), ("&nsime;", "\xE2\x89\x84"), ("&nsimeq;", "\xE2\x89\x84"),
  ("&NotTildeEqual;", "\xE2\x89\x84"), ("&cong;", "\xE2\x89\x85"), ("&TildeFullEqual;", "\xE2\x89\x85"),
  ("&simne;", "\xE2\x89\x86"), ("&ncong;", "\xE2\x89\x87"), ("&NotTildeFullEqual;", "\xE2\x89\x87"),
  ("&asymp;", "\xE2\x89\x88"), ("&ap;", "\xE2\x89\x88"), ("&TildeTilde;", "\xE2\x89\x88"),
  ("&approx;", "\xE2\x89\x88"), ("&thkap;", "\xE2\x89\x88"), ("&thickapprox;", "\xE2\x89\x88"),
  ("&nap;", "\xE2\x89\x89"), ("&NotTildeTilde;", "\xE2\x89\x89"), ("&napprox;", "\xE2\x89\x89"),
  ("&ape;", "\xE2\x89\x8A"), ("&approxeq;", "\xE2\x89\x8A"), ("&apid;", "\xE2\x89\x8B"), ("&bcong;", "\xE2\x89\x8C"),
  ("&backcong;", "\xE2\x89\x8C"), ("&asympeq;", "\xE2\x89\x8D"), ("&CupCap;", "\xE2\x89\x8D"),
  ("&bump;", "\xE2\x89\x8E"), ("&HumpDownHump;", "\xE2\x89\x8E"), ("&Bumpeq;", "\xE2\x89\x8E"),
  ("&bumpe;", "\xE2\x89\x8F"), ("&HumpEqual;", "\xE2\x89\x8F"), ("&bumpeq;", "\xE2\x89\x8F"),
  ("&esdot;", "\xE2\x89\x90"), ("&DotEqual;", "\xE2\x89\x90"), ("&doteq;", "\xE2\x89\x90"),
  ("&eDot;", "\xE2\x89\x91"), ("&doteqdot;", "\xE2\x89\x91"), ("&efDot;", "\xE2\x89\x92"),
  ("&fallingdotseq;", "\xE2\x89\x92"), ("&erDot;", "\xE2\x89\x93"), ("&risingdotseq;", "\xE2\x89\x93"),
  ("&colone;", "\xE2\x89\x94"), ("&coloneq;", "\xE2\x89\x94"), ("&Assign;", "\xE2\x89\x94"),
  ("&ecolon;", "\xE2\x89\x95"), ("&eqcolon;", "\xE2\x89\x95"), ("&ecir;", "\xE2\x89\x96"),
  ("&eqcirc;", "\xE2\x89\x96"), ("&cire;", "\xE2\x89\x97"), ("&circeq;", "\xE2\x89\x97"),
  ("&wedgeq;", "\xE2\x89\x99"), ("&veeeq;", "\xE2\x89\x9A"), ("&trie;", "\xE2\x89\x9C"),
  ("&triangleq;", "\xE2\x89\x9C"), ("&equest;", "\xE2\x89\x9F"), ("&questeq;", "\xE2\x89\x9F"),
  ("&ne;", "\xE2\x89\xA0"), ("&NotEqual;", "\xE2\x89\xA0"), ("&equiv;", "\xE2\x89\xA1"),
  ("&Congruent;", "\xE2\x89\xA1"), ("&nequiv;", "\xE2\x89\xA2"), ("&NotCongruent;", "\xE2\x89\xA2"),
  ("&le;", "\xE2\x89\xA4"), ("&leq;", "\xE2\x89\xA4"), ("&ge;", "\xE2\x89\xA5"), ("&GreaterEqual;", "\xE2\x89\xA5"),
  ("&geq;", "\xE2\x89\xA5"), ("&lE;", "\xE2\x89\xA6"), ("&LessFullEqual;", "\xE2\x89\xA6"),
  ("&leqq;", "\xE2\x89\xA6"), ("&gE;", "\xE2\x89\xA7"), ("&GreaterFullEqual;", "\xE2\x89\xA7"),
  ("&geqq;", "\xE2\x89\xA7"), ("&lnE;", "\xE2\x89\xA8"), ("&lneqq;", "\xE2\x89\xA8"), ("&gnE;", "\xE2\x89\xA9"),
  ("&gneqq;", "\xE2\x89\xA9"), ("&Lt;", "\xE2\x89\xAA"), ("&NestedLessLess;", "\xE2\x89\xAA"),
  ("&ll;", "\xE2\x89\xAA"), ("&Gt;", "\xE2\x89\xAB"), ("&NestedGreaterGreater;", "\xE2\x89\xAB"),
  ("&gg;", "\xE2\x89\xAB"), ("&twixt;", "\xE2\x89\xAC"), ("&between;", "\xE2\x89\xAC"),
  ("&NotCupCap;", "\xE2\x89\xAD"), ("&nlt;", "\xE2\x89\xAE"), ("&NotLess;", "\xE2\x89\xAE"),
  ("&nless;", "\xE2\x89\xAE"), ("&ngt;", "\xE2\x89\xAF"), ("&NotGreater;", "\xE2\x89\xAF"),
  ("&ngtr;", "\xE2\x89\xAF"), ("&nle;", "\xE2\x89\xB0"), ("&NotLessEqual;", "\xE2\x89\xB0"),
  ("&nleq;", "\xE2\x89\xB0"), ("&nge;", "\xE2\x89\xB1"), ("&NotGreaterEqual;", "\xE2\x89\xB1"),
  ("&ngeq;", "\xE2\x89\xB1"), ("&lsim;", "\xE2\x89\xB2"), ("&LessTilde;", "\xE2\x89\xB2"),
  ("&lesssim;", "\xE2\x89\xB2"), ("&gsim;", "\xE2\x89\xB3"), ("&gtrsim;", "\xE2\x89\xB3"),
  ("&GreaterTilde;", "\xE2\x89\xB3"), ("&nlsim;", "\xE2\x89\xB4"), ("&NotLessTilde;", "\xE2\x89\xB4"),
  ("&ngsim;", "\xE2\x89\xB5"), ("&NotGreaterTilde;", "\xE2\x89\xB5"), ("&lg;", "\xE2\x89\xB6"),
  ("&lessgtr;", "\xE2\x89\xB6"), ("&LessGreater;", "\xE2\x89\xB6"), ("&gl;", "\xE2\x89\xB7"),
  ("&gtrless;", "\xE2\x89\xB7"), ("&GreaterLess;", "\xE2\x89\xB7"), ("&ntlg;", "\xE2\x89\xB8"),
  ("&NotLessGreater;", "\xE2\x89\xB8"), ("&ntgl;", "\xE2\x89\xB9"), ("&NotGreaterLess;", "\xE2\x89\xB9"),
  ("&pr;", "\xE2\x89\xBA"), ("&Precedes;", "\xE2\x89\xBA"), ("&prec;", "\xE2\x89\xBA"), ("&sc;", "\xE2\x89\xBB"),
  ("&Succeeds;", "\xE2\x89\xBB"), ("&succ;", "\xE2\x89\xBB"), ("&prcue;", "\xE2\x89\xBC"),
  ("&PrecedesSlantEqual;", "\xE2\x89\xBC"), ("&preccurlyeq;", "\xE2\x89\xBC"), ("&sccue;", "\xE2\x89\xBD"),
  ("&SucceedsSlantEqual;", "\xE2\x89\xBD"), ("&succcurlyeq;", "\xE2\x89\xBD"), ("&prsim;", "\xE2\x89\xBE"),
  ("&precsim;", "\xE2\x89\xBE"), ("&PrecedesTilde;", "\xE2\x89\xBE"), ("&scsim;", "\xE2\x89\xBF"),
  ("&succsim;", "\xE2\x89\xBF"), ("&SucceedsTilde;", "\xE2\x89\xBF"), ("&npr;", "\xE2\x8A\x80"),
  ("&nprec;", "\xE2\x8A\x80"), ("&NotPrecedes;", "\xE2\x8A\x80"), ("&nsc;", "\xE2\x8A\x81"),
  ("&nsucc;", "\xE2\x8A\x81"), ("&NotSucceeds;", "\xE2\x8A\x81"), ("&sub;", "\xE2\x8A\x82"),
  ("&subset;", "\xE2\x8A\x82"), ("&sup;", "\xE2\x8A\x83"), ("&supset;", "\xE2\x8A\x83"),
  ("&Superset;", "\xE2\x8A\x83"), ("&nsub;", "\xE2\x8A\x84"), ("&nsup;", "\xE2\x8A\x85"), ("&sube;", "\xE2\x8A\x86"),
  ("&SubsetEqual;", "\xE2\x8A\x86"), ("&subseteq;", "\xE2\x8A\x86"), ("&supe;", "\xE2\x8A\x87"),
  ("&supseteq;", "\xE2\x8A\x87"), ("&SupersetEqual;", "\xE2\x8A\x87"), ("&nsube;", "\xE2\x8A\x88"),
  ("&nsubseteq;", "\xE2\x8A\x88"), ("&NotSubsetEqual;", "\xE2\x8A\x88"), ("&nsupe;", "\xE2\x8A\x89"),
  ("&nsupseteq;", "\xE2\x8A\x89"), ("&NotSupersetEqual;", "\xE2\x8A\x89"), ("&subne;", "\xE2\x8A\x8A"),
  ("&subsetneq;", "\xE2\x8A\x8A"), ("&supne;", "\xE2\x8A\x8B"), ("&supsetneq;", "\xE2\x8A\x8B"),
  ("&cupdot;", "\xE2\x8A\x8D"), ("&uplus;", "\xE2\x8A\x8E"), ("&UnionPlus;", "\xE2\x8A\x8E"),
  ("&sqsub;", "\xE2\x8A\x8F"), ("&SquareSubset;", "\xE2\x8A\x8F"), ("&sqsubset;", "\xE2\x8A\x8F"),
  ("&sqsup;", "\xE2\x8A\x90"), ("&SquareSuperset;", "\xE2\x8A\x90"), ("&sqsupset;", "\xE2\x8A\x90"),
  ("&sqsube;", "\xE2\x8A\x91"), ("&SquareSubsetEqual;", "\xE2\x8A\x91"), ("&sqsubseteq;", "\xE2\x8A\x91"),
  ("&sqsupe;", "\xE2\x8A\x92"), ("&SquareSupersetEqual;", "\xE2\x8A\x92"), ("&sqsupseteq;", "\xE2\x8A\x92"),
  ("&sqcap;", "\xE2\x8A\x93"), ("&SquareIntersection;", "\xE2\x8A\x93"), ("&sqcup;", "\xE2\x8A\x94"),
  ("&SquareUnion;", "\xE2\x8A\x94"), ("&oplus;", "\xE2\x8A\x95"), ("&CirclePlus;", "\xE2\x8A\x95"),
  ("&ominus;", "\xE2\x8A\x96"), ("&CircleMinus;", "\xE2\x8A\x96"), ("&otimes;", "\xE2\x8A\x97"),
  ("&CircleTimes;", "\xE2\x8A\x97"), ("&osol;", "\xE2\x8A\x98"), ("&odot;", "\xE2\x8A\x99"),
  ("&CircleDot;", "\xE2\x8A\x99"), ("&ocir;", "\xE2\x8A\x9A"), ("&circledcirc;", "\xE2\x8A\x9A"),
  ("&oast;", "\xE2\x8A\x9B"), ("&circledast;", "\xE2\x8A\x9B"), ("&odash;", "\xE2\x8A\x9D"),
  ("&circleddash;", "\xE2\x8A\x9D"), ("&plusb;", "\xE2\x8A\x9E"), ("&boxplus;", "\xE2\x8A\x9E"),
  ("&minusb;", "\xE2\x8A\x9F"), ("&boxminus;", "\xE2\x8A\x9F"), ("&timesb;", "\xE2\x8A\xA0"),
  ("&boxtimes;", "\xE2\x8A\xA0"), ("&sdotb;", "\xE2\x8A\xA1"), ("&dotsquare;", "\xE2\x8A\xA1"),
  ("&vdash;", "\xE2\x8A\xA2"), ("&RightTee;", "\xE2\x8A\xA2"), ("&dashv;", "\xE2\x8A\xA3"),
  ("&LeftTee;", "\xE2\x8A\xA3"), ("&top;", "\xE2\x8A\xA4"), ("&DownTee;", "\xE2\x8A\xA4"),
  ("&bottom;", "\xE2\x8A\xA5"), ("&bot;", "\xE2\x8A\xA5"), ("&perp;", "\xE2\x8A\xA5"), ("&UpTee;", "\xE2\x8A\xA5"),
  ("&models;", "\xE2\x8A\xA7"), ("&vDash;", "\xE2\x8A\xA8"), ("&DoubleRightTee;", "\xE2\x8A\xA8"),
  ("&Vdash;", "\xE2\x8A\xA9"), ("&Vvdash;", "\xE2\x8A\xAA"), ("&VDash;", "\xE2\x8A\xAB"),
  ("&nvdash;", "\xE2\x8A\xAC"), ("&nvDash;", "\xE2\x8A\xAD"), ("&nVdash;", "\xE2\x8A\xAE"),
  ("&nVDash;", "\xE2\x8A\xAF"), ("&prurel;", "\xE2\x8A\xB0"), ("&vltri;", "\xE2\x8A\xB2"),
  ("&vartriangleleft;", "\xE2\x8A\xB2"), ("&LeftTriangle;", "\xE2\x8A\xB2"), ("&vrtri;", "\xE2\x8A\xB3"),
  ("&vartriangleright;", "\xE2\x8A\xB3"), ("&RightTriangle;", "\xE2\x8A\xB3"), ("&ltrie;", "\xE2\x8A\xB4"),
  ("&trianglelefteq;", "\xE2\x8A\xB4"), ("&LeftTriangleEqual;", "\xE2\x8A\xB4"), ("&rtrie;", "\xE2\x8A\xB5"),
  ("&trianglerighteq;", "\xE2\x8A\xB5"), ("&RightTriangleEqual;", "\xE2\x8A\xB5"), ("&origof;", "\xE2\x8A\xB6"),
  ("&imof;", "\xE2\x8A\xB7"), ("&mumap;", "\xE2\x8A\xB8"), ("&multimap;", "\xE2\x8A\xB8"),
  ("&hercon;", "\xE2\x8A\xB9"), ("&intcal;", "\xE2\x8A\xBA"), ("&intercal;", "\xE2\x8A\xBA"),
  ("&veebar;", "\xE2\x8A\xBB"), ("&barvee;", "\xE2\x8A\xBD"), ("&angrtvb;", "\xE2\x8A\xBE"),
  ("&lrtri;", "\xE2\x8A\xBF"), ("&xwedge;", "\xE2\x8B\x80"), ("&Wedge;", "\xE2\x8B\x80"),
  ("&bigwedge;", "\xE2\x8B\x80"), ("&xvee;", "\xE2\x8B\x81"), ("&Vee;", "\xE2\x8B\x81"), ("&bigvee;", "\xE2\x8B\x81"),
  ("&xcap;", "\xE2\x8B\x82"), ("&Intersection;", "\xE2\x8B\x82"), ("&bigcap;", "\xE2\x8B\x82"),
  ("&xcup;", "\xE2\x8B\x83"), ("&Union;", "\xE2\x8B\x83"), ("&bigcup;", "\xE2\x8B\x83"), ("&diam;", "\xE2\x8B\x84"),
  ("&diamond;", "\xE2\x8B\x84"), ("&Diamond;", "\xE2\x8B\x84"), ("&sdot;", "\xE2\x8B\x85"),
  ("&sstarf;", "\xE2\x8B\x86"), ("&Star;", "\xE2\x8B\x86"), ("&divonx;", "\xE2\x8B\x87"),
  ("&divideontimes;", "\xE2\x8B\x87"), ("&bowtie;", "\xE2\x8B\x88"), ("&ltimes;", "\xE2\x8B\x89"),
  ("&rtimes;", "\xE2\x8B\x8A"), ("&lthree;", "\xE2\x8B\x8B"), ("&leftthreetimes;", "\xE2\x8B\x8B"),
  ("&rthree;", "\xE2\x8B\x8C"), ("&rightthreetimes;", "\xE2\x8B\x8C"), ("&bsime;", "\xE2\x8B\x8D"),
  ("&backsimeq;", "\xE2\x8B\x8D"), ("&cuvee;", "\xE2\x8B\x8E"), ("&curlyvee;", "\xE2\x8B\x8E"),
  ("&cuwed;", "\xE2\x8B\x8F"), ("&curlywedge;", "\xE2\x8B\x8F"), ("&Sub;", "\xE2\x8B\x90"),
  ("&Subset;", "\xE2\x8B\x90"), ("&Sup;", "\xE2\x8B\x91"), ("&Supset;", "\xE2\x8B\x91"), ("&Cap;", "\xE2\x8B\x92"),
  ("&Cup;", "\xE2\x8B\x93"), ("&fork;", "\xE2\x8B\x94"), ("&pitchfork;", "\xE2\x8B\x94"), ("&epar;", "\xE2\x8B\x95"),
  ("&ltdot;", "\xE2\x8B\x96"), ("&lessdot;", "\xE2\x8B\x96"), ("&gtdot;", "\xE2\x8B\x97"),
  ("&gtrdot;", "\xE2\x8B\x97"), ("&Ll;", "\xE2\x8B\x98"), ("&Gg;", "\xE2\x8B\x99"), ("&ggg;", "\xE2\x8B\x99"),
  ("&leg;", "\xE2\x8B\x9A"), ("&LessEqualGreater;", "\xE2\x8B\x9A"), ("&lesseqgtr;", "\xE2\x8B\x9A"),
  ("&gel;", "\xE2\x8B\x9B"), ("&gtreqless;", "\xE2\x8B\x9B"), ("&GreaterEqualLess;", "\xE2\x8B\x9B"),
  ("&cuepr;", "\xE2\x8B\x9E"), ("&curlyeqprec;", "\xE2\x8B\x9E"), ("&cuesc;", "\xE2\x8B\x9F"),
  ("&curlyeqsucc;", "\xE2\x8B\x9F"), ("&nprcue;", "\xE2\x8B\xA0"), ("&NotPrecedesSlantEqual;", "\xE2\x8B\xA0"),
  ("&nsccue;", "\xE2\x8B\xA1"), ("&NotSucceedsSlantEqual;", "\xE2\x8B\xA1"), ("&nsqsube;", "\xE2\x8B\xA2"),
  ("&NotSquareSubsetEqual;", "\xE2\x8B\xA2"), ("&nsqsupe;", "\xE2\x8B\xA3"),
  ("&NotSquareSupersetEqual;", "\xE2\x8B\xA3"), ("&lnsim;", "\xE2\x8B\xA6"), ("&gnsim;", "\xE2\x8B\xA7"),
  ("&prnsim;", "\xE2\x8B\xA8"), ("&precnsim;", "\xE2\x8B\xA8"), ("&scnsim;", "\xE2\x8B\xA9"),
  ("&succnsim;", "\xE2\x8B\xA9"), ("&nltri;", "\xE2\x8B\xAA"), ("&ntriangleleft;", "\xE2\x8B\xAA"),
  ("&NotLeftTriangle;", "\xE2\x8B\xAA"), ("&nrtri;", "\xE2\x8B\xAB"), ("&ntriangleright;", "\xE2\x8B\xAB"),
  ("&NotRightTriangle;", "\xE2\x8B\xAB"), ("&nltrie;", "\xE2\x8B\xAC"), ("&ntrianglelefteq;", "\xE2\x8B\xAC"),
  ("&NotLeftTriangleEqual;", "\xE2\x8B\xAC"), ("&nrtrie;", "\xE2\x8B\xAD"), ("&ntrianglerighteq;", "\xE2\x8B\xAD"),
  ("&NotRightTriangleEqual;", "\xE2\x8B\xAD"), ("&vellip;", "\xE2\x8B\xAE"), ("&ctdot;", "\xE2\x8B\xAF"),
  ("&utdot;", "\xE2\x8B\xB0"), ("&dtdot;", "\xE2\x8B\xB1"), ("&disin;", "\xE2\x8B\xB2"), ("&isinsv;", "\xE2\x8B\xB3"),
  ("&isins;", "\xE2\x8B\xB4"), ("&isindot;", "\xE2\x8B\xB5"), ("&notinvc;", "\xE2\x8B\xB6"),
  ("&notinvb;", "\xE2\x8B\xB7"), ("&isinE;", "\xE2\x8B\xB9"), ("&nisd;", "\xE2\x8B\xBA"), ("&xnis;", "\xE2\x8B\xBB"),
  ("&nis;", "\xE2\x8B\xBC"), ("&notnivc;", "\xE2\x8B\xBD"), ("&notnivb;", "\xE2\x8B\xBE"),
  ("&barwed;", "\xE2\x8C\x85"), ("&barwedge;", "\xE2\x8C\x85"), ("&Barwed;", "\xE2\x8C\x86"),
  ("&doublebarwedge;", "\xE2\x8C\x86"), ("&lceil;", "\xE2\x8C\x88"), ("&LeftCeiling;", "\xE2\x8C\x88"),
  ("&rceil;", "\xE2\x8C\x89"), ("&RightCeiling;", "\xE2\x8C\x89"), ("&lfloor;", "\xE2\x8C\x8A"),
  ("&LeftFloor;", "\xE2\x8C\x8A"), ("&rfloor;", "\xE2\x8C\x8B"), ("&RightFloor;", "\xE2\x8C\x8B"),
  ("&drcrop;", "\xE2\x8C\x8C"), ("&dlcrop;", "\xE2\x8C\x8D"), ("&urcrop;", "\xE2\x8C\x8E"),
  ("&ulcrop;", "\xE2\x8C\x8F"), ("&bnot;", "\xE2\x8C\x90"), ("&profline;", "\xE2\x8C\x92"),
  ("&profsurf;", "\xE2\x8C\x93"), ("&telrec;", "\xE2\x8C\x95"), ("&target;", "\xE2\x8C\x96"),
  ("&ulcorn;", "\xE2\x8C\x9C"), ("&ulcorner;", "\xE2\x8C\x9C"), ("&urcorn;", "\xE2\x8C\x9D"),
  ("&urcorner;", "\xE2\x8C\x9D"), ("&dlcorn;", "\xE2\x8C\x9E"), ("&llcorner;", "\xE2\x8C\x9E"),
  ("&drcorn;", "\xE2\x8C\x9F"), ("&lrcorner;", "\xE2\x8C\x9F"), ("&frown;", "\xE2\x8C\xA2"),
  ("&sfrown;", "\xE2\x8C\xA2"), ("&smile;", "\xE2\x8C\xA3"), ("&ssmile;", "\xE2\x8C\xA3"),
  ("&cylcty;", "\xE2\x8C\xAD"), ("&profalar;", "\xE2\x8C\xAE"), ("&topbot;", "\xE2\x8C\xB6"),
  ("&ovbar;", "\xE2\x8C\xBD"), ("&solbar;", "\xE2\x8C\xBF"), ("&angzarr;", "\xE2\x8D\xBC"),
  ("&lmoust;", "\xE2\x8E\xB0"), ("&lmoustache;", "\xE2\x8E\xB0"), ("&rmoust;", "\xE2\x8E\xB1"),
  ("&rmoustache;", "\xE2\x8E\xB1"), ("&tbrk;", "\xE2\x8E\xB4"), ("&OverBracket;", "\xE2\x8E\xB4"),
  ("&bbrk;", "\xE2\x8E\xB5"), ("&UnderBracket;", "\xE2\x8E\xB5"), ("&bbrktbrk;", "\xE2\x8E\xB6"),
  ("&OverParenthesis;", "\xE2\x8F\x9C"), ("&UnderParenthesis;", "\xE2\x8F\x9D"), ("&OverBrace;", "\xE2\x8F\x9E"),
  ("&UnderBrace;", "\xE2\x8F\x9F"), ("&trpezium;", "\xE2\x8F\xA2"), ("&elinters;", "\xE2\x8F\xA7"),
  ("&blank;", "\xE2\x90\xA3"), ("&oS;", "\xE2\x93\x88"), ("&circledS;", "\xE2\x93\x88"), ("&boxh;", "\xE2\x94\x80"),
  ("&HorizontalLine;", "\xE2\x94\x80"), ("&boxv;", "\xE2\x94\x82"), ("&boxdr;", "\xE2\x94\x8C"),
  ("&boxdl;", "\xE2\x94\x90"), ("&boxur;", "\xE2\x94\x94"), ("&boxul;", "\xE2\x94\x98"), ("&boxvr;", "\xE2\x94\x9C"),
  ("&boxvl;", "\xE2\x94\xA4"), ("&boxhd;", "\xE2\x94\xAC"), ("&boxhu;", "\xE2\x94\xB4"), ("&boxvh;", "\xE2\x94\xBC"),
  ("&boxH;", "\xE2\x95\x90"), ("&boxV;", "\xE2\x95\x91"), ("&boxdR;", "\xE2\x95\x92"), ("&boxDr;", "\xE2\x95\x93"),
  ("&boxDR;", "\xE2\x95\x94"), ("&boxdL;", "\xE2\x95\x95"), ("&boxDl;", "\xE2\x95\x96"), ("&boxDL;", "\xE2\x95\x97"),
  ("&boxuR;", "\xE2\x95\x98"), ("&boxUr;", "\xE2\x95\x99"), ("&boxUR;", "\xE2\x95\x9A"), ("&boxuL;", "\xE2\x95\x9B"),
  ("&boxUl;", "\xE2\x95\x9C"), ("&boxUL;", "\xE2\x95\x9D"), ("&boxvR;", "\xE2\x95\x9E"), ("&boxVr;", "\xE2\x95\x9F"),
  ("&boxVR;", "\xE2\x95\xA0"), ("&boxvL;", "\xE2\x95\xA1"), ("&boxVl;", "\xE2\x95\xA2"), ("&boxVL;", "\xE2\x95\xA3"),
  ("&boxHd;", "\xE2\x95\xA4"), ("&boxhD;", "\xE2\x95\xA5"), ("&boxHD;", "\xE2\x95\xA6"), ("&boxHu;", "\xE2\x95\xA7"),
  ("&boxhU;", "\xE2\x95\xA8"), ("&boxHU;", "\xE2\x95\xA9"), ("&boxvH;", "\xE2\x95\xAA"), ("&boxVh;", "\xE2\x95\xAB"),
  ("&boxVH;", "\xE2\x95\xAC"), ("&uhblk;", "\xE2\x96\x80"), ("&lhblk;", "\xE2\x96\x84"), ("&block;", "\xE2\x96\x88"),
  ("&blk14;", "\xE2\x96\x91"), ("&blk12;", "\xE2\x96\x92"), ("&blk34;", "\xE2\x96\x93"), ("&squ;", "\xE2\x96\xA1"),
  ("&square;", "\xE2\x96\xA1"), ("&Square;", "\xE2\x96\xA1"), ("&squf;", "\xE2\x96\xAA"),
  ("&squarf;", "\xE2\x96\xAA"), ("&blacksquare;", "\xE2\x96\xAA"), ("&FilledVerySmallSquare;", "\xE2\x96\xAA"),
  ("&EmptyVerySmallSquare;", "\xE2\x96\xAB"), ("&rect;", "\xE2\x96\xAD"), ("&marker;", "\xE2\x96\xAE"),
  ("&fltns;", "\xE2\x96\xB1"), ("&xutri;", "\xE2\x96\xB3"), ("&bigtriangleup;", "\xE2\x96\xB3"),
  ("&utrif;", "\xE2\x96\xB4"), ("&blacktriangle;", "\xE2\x96\xB4"), ("&utri;", "\xE2\x96\xB5"),
  ("&triangle;", "\xE2\x96\xB5"), ("&rtrif;", "\xE2\x96\xB8"), ("&blacktriangleright;", "\xE2\x96\xB8"),
  ("&rtri;", "\xE2\x96\xB9"), ("&triangleright;", "\xE2\x96\xB9"), ("&xdtri;", "\xE2\x96\xBD"),
  ("&bigtriangledown;", "\xE2\x96\xBD"), ("&dtrif;", "\xE2\x96\xBE"), ("&blacktriangledown;", "\xE2\x96\xBE"),
  ("&dtri;", "\xE2\x96\xBF"), ("&triangledown;", "\xE2\x96\xBF"), ("&ltrif;", "\xE2\x97\x82"),
  ("&blacktriangleleft;", "\xE2\x97\x82"), ("&ltri;", "\xE2\x97\x83"), ("&triangleleft;", "\xE2\x97\x83"),
  ("&loz;", "\xE2\x97\x8A"), ("&lozenge;", "\xE2\x97\x8A"), ("&cir;", "\xE2\x97\x8B"), ("&tridot;", "\xE2\x97\xAC"),
  ("&xcirc;", "\xE2\x97\xAF"), ("&bigcirc;", "\xE2\x97\xAF"), ("&ultri;", "\xE2\x97\xB8"),
  ("&urtri;", "\xE2\x97\xB9"), ("&lltri;", "\xE2\x97\xBA"), ("&EmptySmallSquare;", "\xE2\x97\xBB"),
  ("&FilledSmallSquare;", "\xE2\x97\xBC"), ("&starf;", "\xE2\x98\x85"), ("&bigstar;", "\xE2\x98\x85"),
  ("&star;", "\xE2\x98\x86"), ("&phone;", "\xE2\x98\x8E"), ("&female;", "\xE2\x99\x80"), ("&male;", "\xE2\x99\x82"),
  ("&spades;", "\xE2\x99\xA0"), ("&spadesuit;", "\xE2\x99\xA0"), ("&clubs;", "\xE2\x99\xA3"),
  ("&clubsuit;", "\xE2\x99\xA3"), ("&hearts;", "\xE2\x99\xA5"), ("&heartsuit;", "\xE2\x99\xA5"),
  ("&diams;", "\xE2\x99\xA6"), ("&diamondsuit;", "\xE2\x99\xA6"), ("&sung;", "\xE2\x99\xAA"),
  ("&flat;", "\xE2\x99\xAD"), ("&natur;", "\xE2\x99\xAE"), ("&natural;", "\xE2\x99\xAE"), ("&sharp;", "\xE2\x99\xAF"),
  ("&check;", "\xE2\x9C\x93"), ("&checkmark;", "\xE2\x9C\x93"), ("&cross;", "\xE2\x9C\x97"),
  ("&malt;", "\xE2\x9C\xA0"), ("&maltese;", "\xE2\x9C\xA0"), ("&sext;", "\xE2\x9C\xB6"),
  ("&VerticalSeparator;", "\xE2\x9D\x98"), ("&lbbrk;", "\xE2\x9D\xB2"), ("&rbbrk;", "\xE2\x9D\xB3"),
  ("&lobrk;", "\xE2\x9F\xA6"), ("&LeftDoubleBracket;", "\xE2\x9F\xA6"), ("&robrk;", "\xE2\x9F\xA7"),
  ("&RightDoubleBracket;", "\xE2\x9F\xA7"), ("&lang;", "\xE2\x9F\xA8"), ("&LeftAngleBracket;", "\xE2\x9F\xA8"),
  ("&langle;", "\xE2\x9F\xA8"), ("&rang;", "\xE2\x9F\xA9"), ("&RightAngleBracket;", "\xE2\x9F\xA9"),
  ("&rangle;", "\xE2\x9F\xA9"), ("&Lang;", "\xE2\x9F\xAA"), ("&Rang;", "\xE2\x9F\xAB"), ("&loang;", "\xE2\x9F\xAC"),
  ("&roang;", "\xE2\x9F\xAD"), ("&xlarr;", "\xE2\x9F\xB5"), ("&longleftarrow;", "\xE2\x9F\xB5"),
  ("&LongLeftArrow;", "\xE2\x9F\xB5"), ("&xrarr;", "\xE2\x9F\xB6"), ("&longrightarrow;", "\xE2\x9F\xB6"),
  ("&LongRightArrow;", "\xE2\x9F\xB6"), ("&xharr;", "\xE2\x9F\xB7"), ("&longleftrightarrow;", "\xE2\x9F\xB7"),
  ("&LongLeftRightArrow;", "\xE2\x9F\xB7"), ("&xlArr;", "\xE2\x9F\xB8"), ("&Longleftarrow;", "\xE2\x9F\xB8"),
  ("&DoubleLongLeftArrow;", "\xE2\x9F\xB8"), ("&xrArr;", "\xE2\x9F\xB9"), ("&Longrightarrow;", "\xE2\x9F\xB9"),
  ("&DoubleLongRightArrow;", "\xE2\x9F\xB9"), ("&xhArr;", "\xE2\x9F\xBA"), ("&Longleftrightarrow;", "\xE2\x9F\xBA"),
  ("&DoubleLongLeftRightArrow;", "\xE2\x9F\xBA"), ("&xmap;", "\xE2\x9F\xBC"), ("&longmapsto;", "\xE2\x9F\xBC"),
  ("&dzigrarr;", "\xE2\x9F\xBF"), ("&nvlArr;", "\xE2\xA4\x82"), ("&nvrArr;", "\xE2\xA4\x83"),
  ("&nvHarr;", "\xE2\xA4\x84"), ("&Map;", "\xE2\xA4\x85"), ("&lbarr;", "\xE2\xA4\x8C"), ("&rbarr;", "\xE2\xA4\x8D"),
  ("&bkarow;", "\xE2\xA4\x8D"), ("&lBarr;", "\xE2\xA4\x8E"), ("&rBarr;", "\xE2\xA4\x8F"),
  ("&dbkarow;", "\xE2\xA4\x8F"), ("&RBarr;", "\xE2\xA4\x90"), ("&drbkarow;", "\xE2\xA4\x90"),
  ("&DDotrahd;", "\xE2\xA4\x91"), ("&UpArrowBar;", "\xE2\xA4\x92"), ("&DownArrowBar;", "\xE2\xA4\x93"),
  ("&Rarrtl;", "\xE2\xA4\x96"), ("&latail;", "\xE2\xA4\x99"), ("&ratail;", "\xE2\xA4\x9A"),
  ("&lAtail;", "\xE2\xA4\x9B"), ("&rAtail;", "\xE2\xA4\x9C"), ("&larrfs;", "\xE2\xA4\x9D"),
  ("&rarrfs;", "\xE2\xA4\x9E"), ("&larrbfs;", "\xE2\xA4\x9F"), ("&rarrbfs;", "\xE2\xA4\xA0"),
  ("&nwarhk;", "\xE2\xA4\xA3"), ("&nearhk;", "\xE2\xA4\xA4"), ("&searhk;", "\xE2\xA4\xA5"),
  ("&hksearow;", "\xE2\xA4\xA5"), ("&swarhk;", "\xE2\xA4\xA6"), ("&hkswarow;", "\xE2\xA4\xA6"),
  ("&nwnear;", "\xE2\xA4\xA7"), ("&nesear;", "\xE2\xA4\xA8"), ("&toea;", "\xE2\xA4\xA8"),
  ("&seswar;", "\xE2\xA4\xA9"), ("&tosa;", "\xE2\xA4\xA9"), ("&swnwar;", "\xE2\xA4\xAA"), ("&rarrc;", "\xE2\xA4\xB3"),
  ("&cudarrr;", "\xE2\xA4\xB5"), ("&ldca;", "\xE2\xA4\xB6"), ("&rdca;", "\xE2\xA4\xB7"),
  ("&cudarrl;", "\xE2\xA4\xB8"), ("&larrpl;", "\xE2\xA4\xB9"), ("&curarrm;", "\xE2\xA4\xBC"),
  ("&cularrp;", "\xE2\xA4\xBD"), ("&rarrpl;", "\xE2\xA5\x85"), ("&harrcir;", "\xE2\xA5\x88"),
  ("&Uarrocir;", "\xE2\xA5\x89"), ("&lurdshar;", "\xE2\xA5\x8A"), ("&ldrushar;", "\xE2\xA5\x8B"),
  ("&LeftRightVector;", "\xE2\xA5\x8E"), ("&RightUpDownVector;", "\xE2\xA5\x8F"),
  ("&DownLeftRightVector;", "\xE2\xA5\x90"), ("&LeftUpDownVector;", "\xE2\xA5\x91"),
  ("&LeftVectorBar;", "\xE2\xA5\x92"), ("&RightVectorBar;", "\xE2\xA5\x93"), ("&RightUpVectorBar;", "\xE2\xA5\x94"),
  ("&RightDownVectorBar;", "\xE2\xA5\x95"), ("&DownLeftVectorBar;", "\xE2\xA5\x96"),
  ("&DownRightVectorBar;", "\xE2\xA5\x97"), ("&LeftUpVectorBar;", "\xE2\xA5\x98"),
  ("&LeftDownVectorBar;", "\xE2\xA5\x99"), ("&LeftTeeVector;", "\xE2\xA5\x9A"), ("&RightTeeVector;", "\xE2\xA5\x9B"),
  ("&RightUpTeeVector;", "\xE2\xA5\x9C"), ("&RightDownTeeVector;", "\xE2\xA5\x9D"),
  ("&DownLeftTeeVector;", "\xE2\xA5\x9E"), ("&DownRightTeeVector;", "\xE2\xA5\x9F"),
  ("&LeftUpTeeVector;", "\xE2\xA5\xA0"), ("&LeftDownTeeVector;", "\xE2\xA5\xA1"), ("&lHar;", "\xE2\xA5\xA2"),
  ("&uHar;", "\xE2\xA5\xA3"), ("&rHar;", "\xE2\xA5\xA4"), ("&dHar;", "\xE2\xA5\xA5"), ("&luruhar;", "\xE2\xA5\xA6"),
  ("&ldrdhar;", "\xE2\xA5\xA7"), ("&ruluhar;", "\xE2\xA5\xA8"), ("&rdldhar;", "\xE2\xA5\xA9"),
  ("&lharul;", "\xE2\xA5\xAA"), ("&llhard;", "\xE2\xA5\xAB"), ("&rharul;", "\xE2\xA5\xAC"),
  ("&lrhard;", "\xE2\xA5\xAD"), ("&udhar;", "\xE2\xA5\xAE"), ("&UpEquilibrium;", "\xE2\xA5\xAE"),
  ("&duhar;", "\xE2\xA5\xAF"), ("&ReverseUpEquilibrium;", "\xE2\xA5\xAF"), ("&RoundImplies;", "\xE2\xA5\xB0"),
  ("&erarr;", "\xE2\xA5\xB1"), ("&simrarr;", "\xE2\xA5\xB2"), ("&larrsim;", "\xE2\xA5\xB3"),
  ("&rarrsim;", "\xE2\xA5\xB4"), ("&rarrap;", "\xE2\xA5\xB5"), ("&ltlarr;", "\xE2\xA5\xB6"),
  ("&gtrarr;", "\xE2\xA5\xB8"), ("&subrarr;", "\xE2\xA5\xB9"), ("&suplarr;", "\xE2\xA5\xBB"),
  ("&lfisht;", "\xE2\xA5\xBC"), ("&rfisht;", "\xE2\xA5\xBD"), ("&ufisht;", "\xE2\xA5\xBE"),
  ("&dfisht;", "\xE2\xA5\xBF"), ("&lopar;", "\xE2\xA6\x85"), ("&ropar;", "\xE2\xA6\x86"), ("&lbrke;", "\xE2\xA6\x8B"),
  ("&rbrke;", "\xE2\xA6\x8C"), ("&lbrkslu;", "\xE2\xA6\x8D"), ("&rbrksld;", "\xE2\xA6\x8E"),
  ("&lbrksld;", "\xE2\xA6\x8F"), ("&rbrkslu;", "\xE2\xA6\x90"), ("&langd;", "\xE2\xA6\x91"),
  ("&rangd;", "\xE2\xA6\x92"), ("&lparlt;", "\xE2\xA6\x93"), ("&rpargt;", "\xE2\xA6\x94"),
  ("&gtlPar;", "\xE2\xA6\x95"), ("&ltrPar;", "\xE2\xA6\x96"), ("&vzigzag;", "\xE2\xA6\x9A"),
  ("&vangrt;", "\xE2\xA6\x9C"), ("&angrtvbd;", "\xE2\xA6\x9D"), ("&ange;", "\xE2\xA6\xA4"),
  ("&range;", "\xE2\xA6\xA5"), ("&dwangle;", "\xE2\xA6\xA6"), ("&uwangle;", "\xE2\xA6\xA7"),
  ("&angmsdaa;", "\xE2\xA6\xA8"), ("&angmsdab;", "\xE2\xA6\xA9"), ("&angmsdac;", "\xE2\xA6\xAA"),
  ("&angmsdad;", "\xE2\xA6\xAB"), ("&angmsdae;", "\xE2\xA6\xAC"), ("&angmsdaf;", "\xE2\xA6\xAD"),
  ("&angmsdag;", "\xE2\xA6\xAE"), ("&angmsdah;", "\xE2\xA6\xAF"), ("&bemptyv;", "\xE2\xA6\xB0"),
  ("&demptyv;", "\xE2\xA6\xB1"), ("&cemptyv;", "\xE2\xA6\xB2"), ("&raemptyv;", "\xE2\xA6\xB3"),
  ("&laemptyv;", "\xE2\xA6\xB4"), ("&ohbar;", "\xE2\xA6\xB5"), ("&omid;", "\xE2\xA6\xB6"), ("&opar;", "\xE2\xA6\xB7"),
  ("&operp;", "\xE2\xA6\xB9"), ("&olcross;", "\xE2\xA6\xBB"), ("&odsold;", "\xE2\xA6\xBC"),
  ("&olcir;", "\xE2\xA6\xBE"), ("&ofcir;", "\xE2\xA6\xBF"), ("&olt;", "\xE2\xA7\x80"), ("&ogt;", "\xE2\xA7\x81"),
  ("&cirscir;", "\xE2\xA7\x82"), ("&cirE;", "\xE2\xA7\x83"), ("&solb;", "\xE2\xA7\x84"), ("&bsolb;", "\xE2\xA7\x85"),
  ("&boxbox;", "\xE2\xA7\x89"), ("&trisb;", "\xE2\xA7\x8D"), ("&rtriltri;", "\xE2\xA7\x8E"),
  ("&LeftTriangleBar;", "\xE2\xA7\x8F"), ("&RightTriangleBar;", "\xE2\xA7\x90"), ("&race;", "\xE2\xA7\x9A"),
  ("&iinfin;", "\xE2\xA7\x9C"), ("&infintie;", "\xE2\xA7\x9D"), ("&nvinfin;", "\xE2\xA7\x9E"),
  ("&eparsl;", "\xE2\xA7\xA3"), ("&smeparsl;", "\xE2\xA7\xA4"), ("&eqvparsl;", "\xE2\xA7\xA5"),
  ("&lozf;", "\xE2\xA7\xAB"), ("&blacklozenge;", "\xE2\xA7\xAB"), ("&RuleDelayed;", "\xE2\xA7\xB4"),
  ("&dsol;", "\xE2\xA7\xB6"), ("&xodot;", "\xE2\xA8\x80"), ("&bigodot;", "\xE2\xA8\x80"),
  ("&xoplus;", "\xE2\xA8\x81"), ("&bigoplus;", "\xE2\xA8\x81"), ("&xotime;", "\xE2\xA8\x82"),
  ("&bigotimes;", "\xE2\xA8\x82"), ("&xuplus;", "\xE2\xA8\x84"), ("&biguplus;", "\xE2\xA8\x84"),
  ("&xsqcup;", "\xE2\xA8\x86"), ("&bigsqcup;", "\xE2\xA8\x86"), ("&qint;", "\xE2\xA8\x8C"),
  ("&iiiint;", "\xE2\xA8\x8C"), ("&fpartint;", "\xE2\xA8\x8D"), ("&cirfnint;", "\xE2\xA8\x90"),
  ("&awint;", "\xE2\xA8\x91"), ("&rppolint;", "\xE2\xA8\x92"), ("&scpolint;", "\xE2\xA8\x93"),
  ("&npolint;", "\xE2\xA8\x94"), ("&pointint;", "\xE2\xA8\x95"), ("&quatint;", "\xE2\xA8\x96"),
  ("&intlarhk;", "\xE2\xA8\x97"), ("&pluscir;", "\xE2\xA8\xA2"), ("&plusacir;", "\xE2\xA8\xA3"),
  ("&simplus;", "\xE2\xA8\xA4"), ("&plusdu;", "\xE2\xA8\xA5"), ("&plussim;", "\xE2\xA8\xA6"),
  ("&plustwo;", "\xE2\xA8\xA7"), ("&mcomma;", "\xE2\xA8\xA9"), ("&minusdu;", "\xE2\xA8\xAA"),
  ("&loplus;", "\xE2\xA8\xAD"), ("&roplus;", "\xE2\xA8\xAE"), ("&Cross;", "\xE2\xA8\xAF"),
  ("&timesd;", "\xE2\xA8\xB0"), ("&timesbar;", "\xE2\xA8\xB1"), ("&smashp;", "\xE2\xA8\xB3"),
  ("&lotimes;", "\xE2\xA8\xB4"), ("&rotimes;", "\xE2\xA8\xB5"), ("&otimesas;", "\xE2\xA8\xB6"),
  ("&Otimes;", "\xE2\xA8\xB7"), ("&odiv;", "\xE2\xA8\xB8"), ("&triplus;", "\xE2\xA8\xB9"),
  ("&triminus;", "\xE2\xA8\xBA"), ("&tritime;", "\xE2\xA8\xBB"), ("&iprod;", "\xE2\xA8\xBC"),
  ("&intprod;", "\xE2\xA8\xBC"), ("&amalg;", "\xE2\xA8\xBF"), ("&capdot;", "\xE2\xA9\x80"),
  ("&ncup;", "\xE2\xA9\x82"), ("&ncap;", "\xE2\xA9\x83"), ("&capand;", "\xE2\xA9\x84"), ("&cupor;", "\xE2\xA9\x85"),
  ("&cupcap;", "\xE2\xA9\x86"), ("&capcup;", "\xE2\xA9\x87"), ("&cupbrcap;", "\xE2\xA9\x88"),
  ("&capbrcup;", "\xE2\xA9\x89"), ("&cupcup;", "\xE2\xA9\x8A"), ("&capcap;", "\xE2\xA9\x8B"),
  ("&ccups;", "\xE2\xA9\x8C"), ("&ccaps;", "\xE2\xA9\x8D"), ("&ccupssm;", "\xE2\xA9\x90"), ("&And;", "\xE2\xA9\x93"),
  ("&Or;", "\xE2\xA9\x94"), ("&andand;", "\xE2\xA9\x95"), ("&oror;", "\xE2\xA9\x96"), ("&orslope;", "\xE2\xA9\x97"),
  ("&andslope;", "\xE2\xA9\x98"), ("&andv;", "\xE2\xA9\x9A"), ("&orv;", "\xE2\xA9\x9B"), ("&andd;", "\xE2\xA9\x9C"),
  ("&ord;", "\xE2\xA9\x9D"), ("&wedbar;", "\xE2\xA9\x9F"), ("&sdote;", "\xE2\xA9\xA6"), ("&simdot;", "\xE2\xA9\xAA"),
  ("&congdot;", "\xE2\xA9\xAD"), ("&easter;", "\xE2\xA9\xAE"), ("&apacir;", "\xE2\xA9\xAF"),
  ("&apE;", "\xE2\xA9\xB0"), ("&eplus;", "\xE2\xA9\xB1"), ("&pluse;", "\xE2\xA9\xB2"), ("&Esim;", "\xE2\xA9\xB3"),
  ("&Colone;", "\xE2\xA9\xB4"), ("&Equal;", "\xE2\xA9\xB5"), ("&eDDot;", "\xE2\xA9\xB7"),
  ("&ddotseq;", "\xE2\xA9\xB7"), ("&equivDD;", "\xE2\xA9\xB8"), ("&ltcir;", "\xE2\xA9\xB9"),
  ("&gtcir;", "\xE2\xA9\xBA"), ("&ltquest;", "\xE2\xA9\xBB"), ("&gtquest;", "\xE2\xA9\xBC"),
  ("&les;", "\xE2\xA9\xBD"), ("&LessSlantEqual;", "\xE2\xA9\xBD"), ("&leqslant;", "\xE2\xA9\xBD"),
  ("&ges;", "\xE2\xA9\xBE"), ("&GreaterSlantEqual;", "\xE2\xA9\xBE"), ("&geqslant;", "\xE2\xA9\xBE"),
  ("&lesdot;", "\xE2\xA9\xBF"), ("&gesdot;", "\xE2\xAA\x80"), ("&lesdoto;", "\xE2\xAA\x81"),
  ("&gesdoto;", "\xE2\xAA\x82"), ("&lesdotor;", "\xE2\xAA\x83"), ("&gesdotol;", "\xE2\xAA\x84"),
  ("&lap;", "\xE2\xAA\x85"), ("&lessapprox;", "\xE2\xAA\x85"), ("&gap;", "\xE2\xAA\x86"),
  ("&gtrapprox;", "\xE2\xAA\x86"), ("&lne;", "\xE2\xAA\x87"), ("&lneq;", "\xE2\xAA\x87"), ("&gne;", "\xE2\xAA\x88"),
  ("&gneq;", "\xE2\xAA\x88"), ("&lnap;", "\xE2\xAA\x89"), ("&lnapprox;", "\xE2\xAA\x89"), ("&gnap;", "\xE2\xAA\x8A"),
  ("&gnapprox;", "\xE2\xAA\x8A"), ("&lEg;", "\xE2\xAA\x8B"), ("&lesseqqgtr;", "\xE2\xAA\x8B"),
  ("&gEl;", "\xE2\xAA\x8C"), ("&gtreqqless;", "\xE2\xAA\x8C"), ("&lsime;", "\xE2\xAA\x8D"),
  ("&gsime;", "\xE2\xAA\x8E"), ("&lsimg;", "\xE2\xAA\x8F"), ("&gsiml;", "\xE2\xAA\x90"), ("&lgE;", "\xE2\xAA\x91"),
  ("&glE;", "\xE2\xAA\x92"), ("&lesges;", "\xE2\xAA\x93"), ("&gesles;", "\xE2\xAA\x94"), ("&els;", "\xE2\xAA\x95"),
  ("&eqslantless;", "\xE2\xAA\x95"), ("&egs;", "\xE2\xAA\x96"), ("&eqslantgtr;", "\xE2\xAA\x96"),
  ("&elsdot;", "\xE2\xAA\x97"), ("&egsdot;", "\xE2\xAA\x98"), ("&el;", "\xE2\xAA\x99"), ("&eg;", "\xE2\xAA\x9A"),
  ("&siml;", "\xE2\xAA\x9D"), ("&simg;", "\xE2\xAA\x9E"), ("&simlE;", "\xE2\xAA\x9F"), ("&simgE;", "\xE2\xAA\xA0"),
  ("&LessLess;", "\xE2\xAA\xA1"), ("&GreaterGreater;", "\xE2\xAA\xA2"), ("&glj;", "\xE2\xAA\xA4"),
  ("&gla;", "\xE2\xAA\xA5"), ("&ltcc;", "\xE2\xAA\xA6"), ("&gtcc;", "\xE2\xAA\xA7"), ("&lescc;", "\xE2\xAA\xA8"),
  ("&gescc;", "\xE2\xAA\xA9"), ("&smt;", "\xE2\xAA\xAA"), ("&lat;", "\xE2\xAA\xAB"), ("&smte;", "\xE2\xAA\xAC"),
  ("&late;", "\xE2\xAA\xAD"), ("&bumpE;", "\xE2\xAA\xAE"), ("&pre;", "\xE2\xAA\xAF"), ("&preceq;", "\xE2\xAA\xAF"),
  ("&PrecedesEqual;", "\xE2\xAA\xAF"), ("&sce;", "\xE2\xAA\xB0"), ("&succeq;", "\xE2\xAA\xB0"),
  ("&SucceedsEqual;", "\xE2\xAA\xB0"), ("&prE;", "\xE2\xAA\xB3"), ("&scE;", "\xE2\xAA\xB4"),
  ("&prnE;", "\xE2\xAA\xB5"), ("&precneqq;", "\xE2\xAA\xB5"), ("&scnE;", "\xE2\xAA\xB6"),
  ("&succneqq;", "\xE2\xAA\xB6"), ("&prap;", "\xE2\xAA\xB7"), ("&precapprox;", "\xE2\xAA\xB7"),
  ("&scap;", "\xE2\xAA\xB8"), ("&succapprox;", "\xE2\xAA\xB8"), ("&prnap;", "\xE2\xAA\xB9"),
  ("&precnapprox;", "\xE2\xAA\xB9"), ("&scnap;", "\xE2\xAA\xBA"), ("&succnapprox;", "\xE2\xAA\xBA"),
  ("&Pr;", "\xE2\xAA\xBB"), ("&Sc;", "\xE2\xAA\xBC"), ("&subdot;", "\xE2\xAA\xBD"), ("&supdot;", "\xE2\xAA\xBE"),
  ("&subplus;", "\xE2\xAA\xBF"), ("&supplus;", "\xE2\xAB\x80"), ("&submult;", "\xE2\xAB\x81"),
  ("&supmult;", "\xE2\xAB\x82"), ("&subedot;", "\xE2\xAB\x83"), ("&supedot;", "\xE2\xAB\x84"),
  ("&subE;", "\xE2\xAB\x85"), ("&subseteqq;", "\xE2\xAB\x85"), ("&supE;", "\xE2\xAB\x86"),
  ("&supseteqq;", "\xE2\xAB\x86"), ("&subsim;", "\xE2\xAB\x87"), ("&supsim;", "\xE2\xAB\x88"),
  ("&subnE;", "\xE2\xAB\x8B"), ("&subsetneqq;", "\xE2\xAB\x8B"), ("&supnE;", "\xE2\xAB\x8C"),
  ("&supsetneqq;", "\xE2\xAB\x8C"), ("&csub;", "\xE2\xAB\x8F"), ("&csup;", "\xE2\xAB\x90"),
  ("&csube;", "\xE2\xAB\x91"), ("&csupe;", "\xE2\xAB\x92"), ("&subsup;", "\xE2\xAB\x93"),
  ("&supsub;", "\xE2\xAB\x94"), ("&subsub;", "\xE2\xAB\x95"), ("&supsup;", "\xE2\xAB\x96"),
  ("&suphsub;", "\xE2\xAB\x97"), ("&supdsub;", "\xE2\xAB\x98"), ("&forkv;", "\xE2\xAB\x99"),
  ("&topfork;", "\xE2\xAB\x9A"), ("&mlcp;", "\xE2\xAB\x9B"), ("&Dashv;", "\xE2\xAB\xA4"),
  ("&DoubleLeftTee;", "\xE2\xAB\xA4"), ("&Vdashl;", "\xE2\xAB\xA6"), ("&Barv;", "\xE2\xAB\xA7"),
  ("&vBar;", "\xE2\xAB\xA8"), ("&vBarv;", "\xE2\xAB\xA9"), ("&Vbar;", "\xE2\xAB\xAB"), ("&Not;", "\xE2\xAB\xAC"),
  ("&bNot;", "\xE2\xAB\xAD"), ("&rnmid;", "\xE2\xAB\xAE"), ("&cirmid;", "\xE2\xAB\xAF"), ("&midcir;", "\xE2\xAB\xB0"),
  ("&topcir;", "\xE2\xAB\xB1"), ("&nhpar;", "\xE2\xAB\xB2"), ("&parsim;", "\xE2\xAB\xB3"),
  ("&parsl;", "\xE2\xAB\xBD"), ("&fflig;", "\xEF\xAC\x80"), ("&filig;", "\xEF\xAC\x81"), ("&fllig;", "\xEF\xAC\x82"),
  ("&ffilig;", "\xEF\xAC\x83"), ("&ffllig;", "\xEF\xAC\x84"), ("&Ascr;", "\xF0\x9D\x92\x9C"),
  ("&Cscr;", "\xF0\x9D\x92\x9E"), ("&Dscr;", "\xF0\x9D\x92\x9F"), ("&Gscr;", "\xF0\x9D\x92\xA2"),
  ("&Jscr;", "\xF0\x9D\x92\xA5"), ("&Kscr;", "\xF0\x9D\x92\xA6"), ("&Nscr;", "\xF0\x9D\x92\xA9"),
  ("&Oscr;", "\xF0\x9D\x92\xAA"), ("&Pscr;", "\xF0\x9D\x92\xAB"), ("&Qscr;", "\xF0\x9D\x92\xAC"),
  ("&Sscr;", "\xF0\x9D\x92\xAE"), ("&Tscr;", "\xF0\x9D\x92\xAF"), ("&Uscr;", "\xF0\x9D\x92\xB0"),
  ("&Vscr;", "\xF0\x9D\x92\xB1"), ("&Wscr;", "\xF0\x9D\x92\xB2"), ("&Xscr;", "\xF0\x9D\x92\xB3"),
  ("&Yscr;", "\xF0\x9D\x92\xB4"), ("&Zscr;", "\xF0\x9D\x92\xB5"), ("&ascr;", "\xF0\x9D\x92\xB6"),
  ("&bscr;", "\xF0\x9D\x92\xB7"), ("&cscr;", "\xF0\x9D\x92\xB8"), ("&dscr;", "\xF0\x9D\x92\xB9"),
  ("&fscr;", "\xF0\x9D\x92\xBB"), ("&hscr;", "\xF0\x9D\x92\xBD"), ("&iscr;", "\xF0\x9D\x92\xBE"),
  ("&jscr;", "\xF0\x9D\x92\xBF"), ("&kscr;", "\xF0\x9D\x93\x80"), ("&lscr;", "\xF0\x9D\x93\x81"),
  ("&mscr;", "\xF0\x9D\x93\x82"), ("&nscr;", "\xF0\x9D\x93\x83"), ("&pscr;", "\xF0\x9D\x93\x85"),
  ("&qscr;", "\xF0\x9D\x93\x86"), ("&rscr;", "\xF0\x9D\x93\x87"), ("&sscr;", "\xF0\x9D\x93\x88"),
  ("&tscr;", "\xF0\x9D\x93\x89"), ("&uscr;", "\xF0\x9D\x93\x8A"), ("&vscr;", "\xF0\x9D\x93\x8B"),
  ("&wscr;", "\xF0\x9D\x93\x8C"), ("&xscr;", "\xF0\x9D\x93\x8D"), ("&yscr;", "\xF0\x9D\x93\x8E"),
  ("&zscr;", "\xF0\x9D\x93\x8F"), ("&Afr;", "\xF0\x9D\x94\x84"), ("&Bfr;", "\xF0\x9D\x94\x85"),
  ("&Dfr;", "\xF0\x9D\x94\x87"), ("&Efr;", "\xF0\x9D\x94\x88"), ("&Ffr;", "\xF0\x9D\x94\x89"),
  ("&Gfr;", "\xF0\x9D\x94\x8A"), ("&Jfr;", "\xF0\x9D\x94\x8D"), ("&Kfr;", "\xF0\x9D\x94\x8E"),
  ("&Lfr;", "\xF0\x9D\x94\x8F"), ("&Mfr;", "\xF0\x9D\x94\x90"), ("&Nfr;", "\xF0\x9D\x94\x91"),
  ("&Ofr;", "\xF0\x9D\x94\x92"), ("&Pfr;", "\xF0\x9D\x94\x93"), ("&Qfr;", "\xF0\x9D\x94\x94"),
  ("&Sfr;", "\xF0\x9D\x94\x96"), ("&Tfr;", "\xF0\x9D\x94\x97"), ("&Ufr;", "\xF0\x9D\x94\x98"),
  ("&Vfr;", "\xF0\x9D\x94\x99"), ("&Wfr;", "\xF0\x9D\x94\x9A"), ("&Xfr;", "\xF0\x9D\x94\x9B"),
  ("&Yfr;", "\xF0\x9D\x94\x9C"), ("&afr;", "\xF0\x9D\x94\x9E"), ("&bfr;", "\xF0\x9D\x94\x9F"),
  ("&cfr;", "\xF0\x9D\x94\xA0"), ("&dfr;", "\xF0\x9D\x94\xA1"), ("&efr;", "\xF0\x9D\x94\xA2"),
  ("&ffr;", "\xF0\x9D\x94\xA3"), ("&gfr;", "\xF0\x9D\x94\xA4"), ("&hfr;", "\xF0\x9D\x94\xA5"),
  ("&ifr;", "\xF0\x9D\x94\xA6"), ("&jfr;", "\xF0\x9D\x94\xA7"), ("&kfr;", "\xF0\x9D\x94\xA8"),
  ("&lfr;", "\xF0\x9D\x94\xA9"), ("&mfr;", "\xF0\x9D\x94\xAA"), ("&nfr;", "\xF0\x9D\x94\xAB"),
  ("&ofr;", "\xF0\x9D\x94\xAC"), ("&pfr;", "\xF0\x9D\x94\xAD"), ("&qfr;", "\xF0\x9D\x94\xAE"),
  ("&rfr;", "\xF0\x9D\x94\xAF"), ("&sfr;", "\xF0\x9D\x94\xB0"), ("&tfr;", "\xF0\x9D\x94\xB1"),
  ("&ufr;", "\xF0\x9D\x94\xB2"), ("&vfr;", "\xF0\x9D\x94\xB3"), ("&wfr;", "\xF0\x9D\x94\xB4"),
  ("&xfr;", "\xF0\x9D\x94\xB5"), ("&yfr;", "\xF0\x9D\x94\xB6"), ("&zfr;", "\xF0\x9D\x94\xB7"),
  ("&Aopf;", "\xF0\x9D\x94\xB8"), ("&Bopf;", "\xF0\x9D\x94\xB9"), ("&Dopf;", "\xF0\x9D\x94\xBB"),
  ("&Eopf;", "\xF0\x9D\x94\xBC"), ("&Fopf;", "\xF0\x9D\x94\xBD"), ("&Gopf;", "\xF0\x9D\x94\xBE"),
  ("&Iopf;", "\xF0\x9D\x95\x80"), ("&Jopf;", "\xF0\x9D\x95\x81"), ("&Kopf;", "\xF0\x9D\x95\x82"),
  ("&Lopf;", "\xF0\x9D\x95\x83"), ("&Mopf;", "\xF0\x9D\x95\x84"), ("&Oopf;", "\xF0\x9D\x95\x86"),
  ("&Sopf;", "\xF0\x9D\x95\x8A"), ("&Topf;", "\xF0\x9D\x95\x8B"), ("&Uopf;", "\xF0\x9D\x95\x8C"),
  ("&Vopf;", "\xF0\x9D\x95\x8D"), ("&Wopf;", "\xF0\x9D\x95\x8E"), ("&Xopf;", "\xF0\x9D\x95\x8F"),
  ("&Yopf;", "\xF0\x9D\x95\x90"), ("&aopf;", "\xF0\x9D\x95\x92"), ("&bopf;", "\xF0\x9D\x95\x93"),
  ("&copf;", "\xF0\x9D\x95\x94"), ("&dopf;", "\xF0\x9D\x95\x95"), ("&eopf;", "\xF0\x9D\x95\x96"),
  ("&fopf;", "\xF0\x9D\x95\x97"), ("&gopf;", "\xF0\x9D\x95\x98"), ("&hopf;", "\xF0\x9D\x95\x99"),
  ("&iopf;", "\xF0\x9D\x95\x9A"), ("&jopf;", "\xF0\x9D\x95\x9B"), ("&kopf;", "\xF0\x9D\x95\x9C"),
  ("&lopf;", "\xF0\x9D\x95\x9D"), ("&mopf;", "\xF0\x9D\x95\x9E"), ("&nopf;", "\xF0\x9D\x95\x9F"),
  ("&oopf;", "\xF0\x9D\x95\xA0"), ("&popf;", "\xF0\x9D\x95\xA1"), ("&qopf;", "\xF0\x9D\x95\xA2"),
  ("&ropf;", "\xF0\x9D\x95\xA3"), ("&sopf;", "\xF0\x9D\x95\xA4"), ("&topf;", "\xF0\x9D\x95\xA5"),
  ("&uopf;", "\xF0\x9D\x95\xA6"), ("&vopf;", "\xF0\x9D\x95\xA7"), ("&wopf;", "\xF0\x9D\x95\xA8"),
  ("&xopf;", "\xF0\x9D\x95\xA9"), ("&yopf;", "\xF0\x9D\x95\xAA"), ("&zopf;", "\xF0\x9D\x95\xAB")]

/-- The text of a named entity -/
def HtmlEntitiesMapping (name : SharedString) : Option SharedString :=
  (HtmlEntities.find? fun pair => text pair.1 == name).map fun pair => text pair.2

/-- Whether a byte is the first one of a character in UTF-8. -/
def isFirstByte (c : UInt8) : Bool := c.toNat / 64 != 2

theorem countP_utf8EncodeChar (c : Char) : (String.utf8EncodeChar c).countP isFirstByte = 1 := by
  have hfirst : ∀ n, n % 256 / 64 ≠ 2 → isFirstByte (UInt8.ofNat n) = true := by
    intro n hn
    simpa [isFirstByte] using hn
  have hother : ∀ n, isFirstByte (UInt8.ofNat (n % 64 + 128)) = false := by
    intro n
    have hrange : (n % 64 + 128) % 256 / 64 = 2 := by omega
    simp [isFirstByte, hrange]
  unfold String.utf8EncodeChar
  dsimp only
  generalize c.val.toNat = v
  split
  · simp only [List.countP_singleton, hfirst v (by omega), if_true]
  · split
    · simp only [List.countP_cons, List.countP_nil, hother, hfirst (v / 64 % 32 + 192) (by omega)]
      rfl
    · split
      · simp only [List.countP_cons, List.countP_nil, hother, hfirst (v / 4096 % 16 + 224) (by omega)]
        rfl
      · simp only [List.countP_cons, List.countP_nil, hother, hfirst (v / 262144 % 8 + 240) (by omega)]
        rfl

/-- The characters of a literal are the first bytes of its representation. -/
theorem length_text (literal : String) :
    (text literal).length = literal.toByteArray.data.toList.countP isFirstByte := by
  have hencode : ∀ chars : List Char, (chars.flatMap String.utf8EncodeChar).countP isFirstByte = chars.length := by
    intro chars
    induction chars with
    | nil => rfl
    | cons c chars ih =>
      rw [List.flatMap_cons, List.countP_append, countP_utf8EncodeChar, ih, List.length_cons, Nat.add_comm]
  have hbytes : literal.toByteArray = literal.toList.utf8Encode := by
    rw [← String.toByteArray_ofList, String.ofList_toList]
  rw [hbytes, List.utf8Encode, List.data_toByteArray, hencode, text, List.length_map]

/-- Every entity is longer than what it stands for. -/
theorem checkHtmlEntities : ∀ pair ∈ HtmlEntities, (text pair.2).length < (text pair.1).length := by
  -- the characters of a literal take the kernel much longer than its bytes
  simp only [length_text]
  decide +kernel

theorem length_lt_of_htmlEntitiesMapping {name mapped : SharedString} (hfind : HtmlEntitiesMapping name = some mapped) :
    mapped.length < name.length := by
  obtain ⟨pair, hpair, rfl⟩ := Option.map_eq_some_iff.mp hfind
  have hname : text pair.1 = name := by simpa using List.find?_some hpair
  rw [← hname]
  exact checkHtmlEntities pair (List.mem_of_find?_eq_some hpair)

end cpv
