/-!
# Names of characters

Characters can be written by name. The rows give, from a first code point on, the names
of consecutive characters, separated by bars; a position without a name is empty. Names
are looked up without regard to the case of ASCII letters.
-/

namespace LintReview.Text

/-- First code point of a row, and the names from there on. -/
def characterNameRows : List (Nat × String) :=
  [
    (0x20, "SPACE|EXCLAMATION MARK|QUOTATION MARK|NUMBER SIGN|DOLLAR SIGN|PERCENT SIGN|AMPERSAND"),
    (0x27, "APOSTROPHE|LEFT PARENTHESIS|RIGHT PARENTHESIS|ASTERISK|PLUS SIGN|COMMA|HYPHEN-MINUS"),
    (0x2e, "FULL STOP|SOLIDUS|DIGIT ZERO|DIGIT ONE|DIGIT TWO|DIGIT THREE|DIGIT FOUR|DIGIT FIVE"),
    (0x36, "DIGIT SIX|DIGIT SEVEN|DIGIT EIGHT|DIGIT NINE|COLON|SEMICOLON|LESS-THAN SIGN"),
    (0x3d, "EQUALS SIGN|GREATER-THAN SIGN|QUESTION MARK|COMMERCIAL AT|LATIN CAPITAL LETTER A"),
    (0x42, "LATIN CAPITAL LETTER B|LATIN CAPITAL LETTER C|LATIN CAPITAL LETTER D"),
    (0x45, "LATIN CAPITAL LETTER E|LATIN CAPITAL LETTER F|LATIN CAPITAL LETTER G"),
    (0x48, "LATIN CAPITAL LETTER H|LATIN CAPITAL LETTER I|LATIN CAPITAL LETTER J"),
    (0x4b, "LATIN CAPITAL LETTER K|LATIN CAPITAL LETTER L|LATIN CAPITAL LETTER M"),
    (0x4e, "LATIN CAPITAL LETTER N|LATIN CAPITAL LETTER O|LATIN CAPITAL LETTER P"),
    (0x51, "LATIN CAPITAL LETTER Q|LATIN CAPITAL LETTER R|LATIN CAPITAL LETTER S"),
    (0x54, "LATIN CAPITAL LETTER T|LATIN CAPITAL LETTER U|LATIN CAPITAL LETTER V"),
    (0x57, "LATIN CAPITAL LETTER W|LATIN CAPITAL LETTER X|LATIN CAPITAL LETTER Y"),
    (0x5a, "LATIN CAPITAL LETTER Z|LEFT SQUARE BRACKET|REVERSE SOLIDUS|RIGHT SQUARE BRACKET"),
    (0x5e, "CIRCUMFLEX ACCENT|LOW LINE|GRAVE ACCENT|LATIN SMALL LETTER A|LATIN SMALL LETTER B"),
    (0x63, "LATIN SMALL LETTER C|LATIN SMALL LETTER D|LATIN SMALL LETTER E|LATIN SMALL LETTER F"),
    (0x67, "LATIN SMALL LETTER G|LATIN SMALL LETTER H|LATIN SMALL LETTER I|LATIN SMALL LETTER J"),
    (0x6b, "LATIN SMALL LETTER K|LATIN SMALL LETTER L|LATIN SMALL LETTER M|LATIN SMALL LETTER N"),
    (0x6f, "LATIN SMALL LETTER O|LATIN SMALL LETTER P|LATIN SMALL LETTER Q|LATIN SMALL LETTER R"),
    (0x73, "LATIN SMALL LETTER S|LATIN SMALL LETTER T|LATIN SMALL LETTER U|LATIN SMALL LETTER V"),
    (0x77, "LATIN SMALL LETTER W|LATIN SMALL LETTER X|LATIN SMALL LETTER Y|LATIN SMALL LETTER Z"),
    (0x7b, "LEFT CURLY BRACKET|VERTICAL LINE|RIGHT CURLY BRACKET|TILDE"),
    (0xa0, "NO-BREAK SPACE|INVERTED EXCLAMATION MARK|CENT SIGN|POUND SIGN|CURRENCY SIGN|YEN SIGN"),
    (0xa6, "BROKEN BAR|SECTION SIGN|DIAERESIS|COPYRIGHT SIGN|FEMININE ORDINAL INDICATOR"),
    (0xab, "LEFT-POINTING DOUBLE ANGLE QUOTATION MARK|NOT SIGN|SOFT HYPHEN|REGISTERED SIGN"),
    (0xaf, "MACRON|DEGREE SIGN|PLUS-MINUS SIGN|SUPERSCRIPT TWO|SUPERSCRIPT THREE|ACUTE ACCENT"),
    (0xb5, "MICRO SIGN|PILCROW SIGN|MIDDLE DOT|CEDILLA|SUPERSCRIPT ONE"),
    (0xba, "MASCULINE ORDINAL INDICATOR|RIGHT-POINTING DOUBLE ANGLE QUOTATION MARK"),
    (0xbc, "VULGAR FRACTION ONE QUARTER|VULGAR FRACTION ONE HALF|VULGAR FRACTION THREE QUARTERS"),
    (0xbf, "INVERTED QUESTION MARK|LATIN CAPITAL LETTER A WITH GRAVE"),
    (0xc1, "LATIN CAPITAL LETTER A WITH ACUTE|LATIN CAPITAL LETTER A WITH CIRCUMFLEX"),
    (0xc3, "LATIN CAPITAL LETTER A WITH TILDE|LATIN CAPITAL LETTER A WITH DIAERESIS"),
    (0xc5, "LATIN CAPITAL LETTER A WITH RING ABOVE|LATIN CAPITAL LETTER AE"),
    (0xc7, "LATIN CAPITAL LETTER C WITH CEDILLA|LATIN CAPITAL LETTER E WITH GRAVE"),
    (0xc9, "LATIN CAPITAL LETTER E WITH ACUTE|LATIN CAPITAL LETTER E WITH CIRCUMFLEX"),
    (0xcb, "LATIN CAPITAL LETTER E WITH DIAERESIS|LATIN CAPITAL LETTER I WITH GRAVE"),
    (0xcd, "LATIN CAPITAL LETTER I WITH ACUTE|LATIN CAPITAL LETTER I WITH CIRCUMFLEX"),
    (0xcf, "LATIN CAPITAL LETTER I WITH DIAERESIS|LATIN CAPITAL LETTER ETH"),
    (0xd1, "LATIN CAPITAL LETTER N WITH TILDE|LATIN CAPITAL LETTER O WITH GRAVE"),
    (0xd3, "LATIN CAPITAL LETTER O WITH ACUTE|LATIN CAPITAL LETTER O WITH CIRCUMFLEX"),
    (0xd5, "LATIN CAPITAL LETTER O WITH TILDE|LATIN CAPITAL LETTER O WITH DIAERESIS"),
    (0xd7, "MULTIPLICATION SIGN|LATIN CAPITAL LETTER O WITH STROKE"),
    (0xd9, "LATIN CAPITAL LETTER U WITH GRAVE|LATIN CAPITAL LETTER U WITH ACUTE"),
    (0xdb, "LATIN CAPITAL LETTER U WITH CIRCUMFLEX|LATIN CAPITAL LETTER U WITH DIAERESIS"),
    (0xdd, "LATIN CAPITAL LETTER Y WITH ACUTE|LATIN CAPITAL LETTER THORN"),
    (0xdf, "LATIN SMALL LETTER SHARP S|LATIN SMALL LETTER A WITH GRAVE"),
    (0xe1, "LATIN SMALL LETTER A WITH ACUTE|LATIN SMALL LETTER A WITH CIRCUMFLEX"),
    (0xe3, "LATIN SMALL LETTER A WITH TILDE|LATIN SMALL LETTER A WITH DIAERESIS"),
    (0xe5, "LATIN SMALL LETTER A WITH RING ABOVE|LATIN SMALL LETTER AE"),
    (0xe7, "LATIN SMALL LETTER C WITH CEDILLA|LATIN SMALL LETTER E WITH GRAVE"),
    (0xe9, "LATIN SMALL LETTER E WITH ACUTE|LATIN SMALL LETTER E WITH CIRCUMFLEX"),
    (0xeb, "LATIN SMALL LETTER E WITH DIAERESIS|LATIN SMALL LETTER I WITH GRAVE"),
    (0xed, "LATIN SMALL LETTER I WITH ACUTE|LATIN SMALL LETTER I WITH CIRCUMFLEX"),
    (0xef, "LATIN SMALL LETTER I WITH DIAERESIS|LATIN SMALL LETTER ETH"),
    (0xf1, "LATIN SMALL LETTER N WITH TILDE|LATIN SMALL LETTER O WITH GRAVE"),
    (0xf3, "LATIN SMALL LETTER O WITH ACUTE|LATIN SMALL LETTER O WITH CIRCUMFLEX"),
    (0xf5, "LATIN SMALL LETTER O WITH TILDE|LATIN SMALL LETTER O WITH DIAERESIS|DIVISION SIGN"),
    (0xf8, "LATIN SMALL LETTER O WITH STROKE|LATIN SMALL LETTER U WITH GRAVE"),
    (0xfa, "LATIN SMALL LETTER U WITH ACUTE|LATIN SMALL LETTER U WITH CIRCUMFLEX"),
    (0xfc, "LATIN SMALL LETTER U WITH DIAERESIS|LATIN SMALL LETTER Y WITH ACUTE"),
    (0xfe, "LATIN SMALL LETTER THORN|LATIN SMALL LETTER Y WITH DIAERESIS"),
    (0x100, "LATIN CAPITAL LETTER A WITH MACRON|LATIN SMALL LETTER A WITH MACRON"),
    (0x102, "LATIN CAPITAL LETTER A WITH BREVE|LATIN SMALL LETTER A WITH BREVE"),
    (0x104, "LATIN CAPITAL LETTER A WITH OGONEK|LATIN SMALL LETTER A WITH OGONEK"),
    (0x106, "LATIN CAPITAL LETTER C WITH ACUTE|LATIN SMALL LETTER C WITH ACUTE"),
    (0x108, "LATIN CAPITAL LETTER C WITH CIRCUMFLEX|LATIN SMALL LETTER C WITH CIRCUMFLEX"),
    (0x10a, "LATIN CAPITAL LETTER C WITH DOT ABOVE|LATIN SMALL LETTER C WITH DOT ABOVE"),
    (0x10c, "LATIN CAPITAL LETTER C WITH CARON|LATIN SMALL LETTER C WITH CARON"),
    (0x10e, "LATIN CAPITAL LETTER D WITH CARON|LATIN SMALL LETTER D WITH CARON"),
    (0x110, "LATIN CAPITAL LETTER D WITH STROKE|LATIN SMALL LETTER D WITH STROKE"),
    (0x112, "LATIN CAPITAL LETTER E WITH MACRON|LATIN SMALL LETTER E WITH MACRON"),
    (0x114, "LATIN CAPITAL LETTER E WITH BREVE|LATIN SMALL LETTER E WITH BREVE"),
    (0x116, "LATIN CAPITAL LETTER E WITH DOT ABOVE|LATIN SMALL LETTER E WITH DOT ABOVE"),
    (0x118, "LATIN CAPITAL LETTER E WITH OGONEK|LATIN SMALL LETTER E WITH OGONEK"),
    (0x11a, "LATIN CAPITAL LETTER E WITH CARON|LATIN SMALL LETTER E WITH CARON"),
    (0x11c, "LATIN CAPITAL LETTER G WITH CIRCUMFLEX|LATIN SMALL LETTER G WITH CIRCUMFLEX"),
    (0x11e, "LATIN CAPITAL LETTER G WITH BREVE|LATIN SMALL LETTER G WITH BREVE"),
    (0x120, "LATIN CAPITAL LETTER G WITH DOT ABOVE|LATIN SMALL LETTER G WITH DOT ABOVE"),
    (0x122, "LATIN CAPITAL LETTER G WITH CEDILLA|LATIN SMALL LETTER G WITH CEDILLA"),
    (0x124, "LATIN CAPITAL LETTER H WITH CIRCUMFLEX|LATIN SMALL LETTER H WITH CIRCUMFLEX"),
    (0x126, "LATIN CAPITAL LETTER H WITH STROKE|LATIN SMALL LETTER H WITH STROKE"),
    (0x128, "LATIN CAPITAL LETTER I WITH TILDE|LATIN SMALL LETTER I WITH TILDE"),
    (0x12a, "LATIN CAPITAL LETTER I WITH MACRON|LATIN SMALL LETTER I WITH MACRON"),
    (0x12c, "LATIN CAPITAL LETTER I WITH BREVE|LATIN SMALL LETTER I WITH BREVE"),
    (0x12e, "LATIN CAPITAL LETTER I WITH OGONEK|LATIN SMALL LETTER I WITH OGONEK"),
    (0x130, "LATIN CAPITAL LETTER I WITH DOT ABOVE|LATIN SMALL LETTER DOTLESS I"),
    (0x132, "LATIN CAPITAL LIGATURE IJ|LATIN SMALL LIGATURE IJ"),
    (0x134, "LATIN CAPITAL LETTER J WITH CIRCUMFLEX|LATIN SMALL LETTER J WITH CIRCUMFLEX"),
    (0x136, "LATIN CAPITAL LETTER K WITH CEDILLA|LATIN SMALL LETTER K WITH CEDILLA"),
    (0x138, "LATIN SMALL LETTER KRA|LATIN CAPITAL LETTER L WITH ACUTE"),
    (0x13a, "LATIN SMALL LETTER L WITH ACUTE|LATIN CAPITAL LETTER L WITH CEDILLA"),
    (0x13c, "LATIN SMALL LETTER L WITH CEDILLA|LATIN CAPITAL LETTER L WITH CARON"),
    (0x13e, "LATIN SMALL LETTER L WITH CARON|LATIN CAPITAL LETTER L WITH MIDDLE DOT"),
    (0x140, "LATIN SMALL LETTER L WITH MIDDLE DOT|LATIN CAPITAL LETTER L WITH STROKE"),
    (0x142, "LATIN SMALL LETTER L WITH STROKE|LATIN CAPITAL LETTER N WITH ACUTE"),
    (0x144, "LATIN SMALL LETTER N WITH ACUTE|LATIN CAPITAL LETTER N WITH CEDILLA"),
    (0x146, "LATIN SMALL LETTER N WITH CEDILLA|LATIN CAPITAL LETTER N WITH CARON"),
    (0x148, "LATIN SMALL LETTER N WITH CARON|LATIN SMALL LETTER N PRECEDED BY APOSTROPHE"),
    (0x14a, "LATIN CAPITAL LETTER ENG|LATIN SMALL LETTER ENG|LATIN CAPITAL LETTER O WITH MACRON"),
    (0x14d, "LATIN SMALL LETTER O WITH MACRON|LATIN CAPITAL LETTER O WITH BREVE"),
    (0x14f, "LATIN SMALL LETTER O WITH BREVE|LATIN CAPITAL LETTER O WITH DOUBLE ACUTE"),
    (0x151, "LATIN SMALL LETTER O WITH DOUBLE ACUTE|LATIN CAPITAL LIGATURE OE"),
    (0x153, "LATIN SMALL LIGATURE OE|LATIN CAPITAL LETTER R WITH ACUTE"),
    (0x155, "LATIN SMALL LETTER R WITH ACUTE|LATIN CAPITAL LETTER R WITH CEDILLA"),
    (0x157, "LATIN SMALL LETTER R WITH CEDILLA|LATIN CAPITAL LETTER R WITH CARON"),
    (0x159, "LATIN SMALL LETTER R WITH CARON|LATIN CAPITAL LETTER S WITH ACUTE"),
    (0x15b, "LATIN SMALL LETTER S WITH ACUTE|LATIN CAPITAL LETTER S WITH CIRCUMFLEX"),
    (0x15d, "LATIN SMALL LETTER S WITH CIRCUMFLEX|LATIN CAPITAL LETTER S WITH CEDILLA"),
    (0x15f, "LATIN SMALL LETTER S WITH CEDILLA|LATIN CAPITAL LETTER S WITH CARON"),
    (0x161, "LATIN SMALL LETTER S WITH CARON|LATIN CAPITAL LETTER T WITH CEDILLA"),
    (0x163, "LATIN SMALL LETTER T WITH CEDILLA|LATIN CAPITAL LETTER T WITH CARON"),
    (0x165, "LATIN SMALL LETTER T WITH CARON|LATIN CAPITAL LETTER T WITH STROKE"),
    (0x167, "LATIN SMALL LETTER T WITH STROKE|LATIN CAPITAL LETTER U WITH TILDE"),
    (0x169, "LATIN SMALL LETTER U WITH TILDE|LATIN CAPITAL LETTER U WITH MACRON"),
    (0x16b, "LATIN SMALL LETTER U WITH MACRON|LATIN CAPITAL LETTER U WITH BREVE"),
    (0x16d, "LATIN SMALL LETTER U WITH BREVE|LATIN CAPITAL LETTER U WITH RING ABOVE"),
    (0x16f, "LATIN SMALL LETTER U WITH RING ABOVE|LATIN CAPITAL LETTER U WITH DOUBLE ACUTE"),
    (0x171, "LATIN SMALL LETTER U WITH DOUBLE ACUTE|LATIN CAPITAL LETTER U WITH OGONEK"),
    (0x173, "LATIN SMALL LETTER U WITH OGONEK|LATIN CAPITAL LETTER W WITH CIRCUMFLEX"),
    (0x175, "LATIN SMALL LETTER W WITH CIRCUMFLEX|LATIN CAPITAL LETTER Y WITH CIRCUMFLEX"),
    (0x177, "LATIN SMALL LETTER Y WITH CIRCUMFLEX|LATIN CAPITAL LETTER Y WITH DIAERESIS"),
    (0x179, "LATIN CAPITAL LETTER Z WITH ACUTE|LATIN SMALL LETTER Z WITH ACUTE"),
    (0x17b, "LATIN CAPITAL LETTER Z WITH DOT ABOVE|LATIN SMALL LETTER Z WITH DOT ABOVE"),
    (0x17d, "LATIN CAPITAL LETTER Z WITH CARON|LATIN SMALL LETTER Z WITH CARON"),
    (0x17f, "LATIN SMALL LETTER LONG S"),
    (0x391, "GREEK CAPITAL LETTER ALPHA|GREEK CAPITAL LETTER BETA|GREEK CAPITAL LETTER GAMMA"),
    (0x394, "GREEK CAPITAL LETTER DELTA|GREEK CAPITAL LETTER EPSILON|GREEK CAPITAL LETTER ZETA"),
    (0x397, "GREEK CAPITAL LETTER ETA|GREEK CAPITAL LETTER THETA|GREEK CAPITAL LETTER IOTA"),
    (0x39a, "GREEK CAPITAL LETTER KAPPA|GREEK CAPITAL LETTER LAMDA|GREEK CAPITAL LETTER MU"),
    (0x39d, "GREEK CAPITAL LETTER NU|GREEK CAPITAL LETTER XI|GREEK CAPITAL LETTER OMICRON"),
    (0x3a0, "GREEK CAPITAL LETTER PI|GREEK CAPITAL LETTER RHO||GREEK CAPITAL LETTER SIGMA"),
    (0x3a4, "GREEK CAPITAL LETTER TAU|GREEK CAPITAL LETTER UPSILON|GREEK CAPITAL LETTER PHI"),
    (0x3a7, "GREEK CAPITAL LETTER CHI|GREEK CAPITAL LETTER PSI|GREEK CAPITAL LETTER OMEGA"),
    (0x3aa, "GREEK CAPITAL LETTER IOTA WITH DIALYTIKA|GREEK CAPITAL LETTER UPSILON WITH DIALYTIKA"),
    (0x3ac, "GREEK SMALL LETTER ALPHA WITH TONOS|GREEK SMALL LETTER EPSILON WITH TONOS"),
    (0x3ae, "GREEK SMALL LETTER ETA WITH TONOS|GREEK SMALL LETTER IOTA WITH TONOS"),
    (0x3b0, "GREEK SMALL LETTER UPSILON WITH DIALYTIKA AND TONOS|GREEK SMALL LETTER ALPHA"),
    (0x3b2, "GREEK SMALL LETTER BETA|GREEK SMALL LETTER GAMMA|GREEK SMALL LETTER DELTA"),
    (0x3b5, "GREEK SMALL LETTER EPSILON|GREEK SMALL LETTER ZETA|GREEK SMALL LETTER ETA"),
    (0x3b8, "GREEK SMALL LETTER THETA|GREEK SMALL LETTER IOTA|GREEK SMALL LETTER KAPPA"),
    (0x3bb, "GREEK SMALL LETTER LAMDA|GREEK SMALL LETTER MU|GREEK SMALL LETTER NU"),
    (0x3be, "GREEK SMALL LETTER XI|GREEK SMALL LETTER OMICRON|GREEK SMALL LETTER PI"),
    (0x3c1, "GREEK SMALL LETTER RHO|GREEK SMALL LETTER FINAL SIGMA|GREEK SMALL LETTER SIGMA"),
    (0x3c4, "GREEK SMALL LETTER TAU|GREEK SMALL LETTER UPSILON|GREEK SMALL LETTER PHI"),
    (0x3c7, "GREEK SMALL LETTER CHI|GREEK SMALL LETTER PSI|GREEK SMALL LETTER OMEGA"),
    (0x410, "CYRILLIC CAPITAL LETTER A|CYRILLIC CAPITAL LETTER BE|CYRILLIC CAPITAL LETTER VE"),
    (0x413, "CYRILLIC CAPITAL LETTER GHE|CYRILLIC CAPITAL LETTER DE|CYRILLIC CAPITAL LETTER IE"),
    (0x416, "CYRILLIC CAPITAL LETTER ZHE|CYRILLIC CAPITAL LETTER ZE|CYRILLIC CAPITAL LETTER I"),
    (0x419, "CYRILLIC CAPITAL LETTER SHORT I|CYRILLIC CAPITAL LETTER KA"),
    (0x41b, "CYRILLIC CAPITAL LETTER EL|CYRILLIC CAPITAL LETTER EM|CYRILLIC CAPITAL LETTER EN"),
    (0x41e, "CYRILLIC CAPITAL LETTER O|CYRILLIC CAPITAL LETTER PE|CYRILLIC CAPITAL LETTER ER"),
    (0x421, "CYRILLIC CAPITAL LETTER ES|CYRILLIC CAPITAL LETTER TE|CYRILLIC CAPITAL LETTER U"),
    (0x424, "CYRILLIC CAPITAL LETTER EF|CYRILLIC CAPITAL LETTER HA|CYRILLIC CAPITAL LETTER TSE"),
    (0x427, "CYRILLIC CAPITAL LETTER CHE|CYRILLIC CAPITAL LETTER SHA"),
    (0x429, "CYRILLIC CAPITAL LETTER SHCHA|CYRILLIC CAPITAL LETTER HARD SIGN"),
    (0x42b, "CYRILLIC CAPITAL LETTER YERU|CYRILLIC CAPITAL LETTER SOFT SIGN"),
    (0x42d, "CYRILLIC CAPITAL LETTER E|CYRILLIC CAPITAL LETTER YU|CYRILLIC CAPITAL LETTER YA"),
    (0x430, "CYRILLIC SMALL LETTER A|CYRILLIC SMALL LETTER BE|CYRILLIC SMALL LETTER VE"),
    (0x433, "CYRILLIC SMALL LETTER GHE|CYRILLIC SMALL LETTER DE|CYRILLIC SMALL LETTER IE"),
    (0x436, "CYRILLIC SMALL LETTER ZHE|CYRILLIC SMALL LETTER ZE|CYRILLIC SMALL LETTER I"),
    (0x439, "CYRILLIC SMALL LETTER SHORT I|CYRILLIC SMALL LETTER KA|CYRILLIC SMALL LETTER EL"),
    (0x43c, "CYRILLIC SMALL LETTER EM|CYRILLIC SMALL LETTER EN|CYRILLIC SMALL LETTER O"),
    (0x43f, "CYRILLIC SMALL LETTER PE|CYRILLIC SMALL LETTER ER|CYRILLIC SMALL LETTER ES"),
    (0x442, "CYRILLIC SMALL LETTER TE|CYRILLIC SMALL LETTER U|CYRILLIC SMALL LETTER EF"),
    (0x445, "CYRILLIC SMALL LETTER HA|CYRILLIC SMALL LETTER TSE|CYRILLIC SMALL LETTER CHE"),
    (0x448, "CYRILLIC SMALL LETTER SHA|CYRILLIC SMALL LETTER SHCHA"),
    (0x44a, "CYRILLIC SMALL LETTER HARD SIGN|CYRILLIC SMALL LETTER YERU"),
    (0x44c, "CYRILLIC SMALL LETTER SOFT SIGN|CYRILLIC SMALL LETTER E|CYRILLIC SMALL LETTER YU"),
    (0x44f, "CYRILLIC SMALL LETTER YA"),
    (0x2010, "HYPHEN|NON-BREAKING HYPHEN|FIGURE DASH|EN DASH|EM DASH|HORIZONTAL BAR"),
    (0x2016, "DOUBLE VERTICAL LINE|DOUBLE LOW LINE|LEFT SINGLE QUOTATION MARK"),
    (0x2019, "RIGHT SINGLE QUOTATION MARK|SINGLE LOW-9 QUOTATION MARK"),
    (0x201b, "SINGLE HIGH-REVERSED-9 QUOTATION MARK|LEFT DOUBLE QUOTATION MARK"),
    (0x201d, "RIGHT DOUBLE QUOTATION MARK|DOUBLE LOW-9 QUOTATION MARK"),
    (0x201f, "DOUBLE HIGH-REVERSED-9 QUOTATION MARK|DAGGER|DOUBLE DAGGER|BULLET|TRIANGULAR BULLET"),
    (0x2024, "ONE DOT LEADER|TWO DOT LEADER|HORIZONTAL ELLIPSIS|HYPHENATION POINT"),
    (0x2030, "PER MILLE SIGN|PER TEN THOUSAND SIGN|PRIME|DOUBLE PRIME|TRIPLE PRIME|REVERSED PRIME"),
    (0x2036, "REVERSED DOUBLE PRIME|REVERSED TRIPLE PRIME|CARET"),
    (0x2039, "SINGLE LEFT-POINTING ANGLE QUOTATION MARK|SINGLE RIGHT-POINTING ANGLE QUOTATION MARK"),
    (0x203b, "REFERENCE MARK|DOUBLE EXCLAMATION MARK|INTERROBANG|OVERLINE|UNDERTIE|CHARACTER TIE"),
    (0x2041, "CARET INSERTION POINT|ASTERISM|HYPHEN BULLET|FRACTION SLASH"),
    (0x2045, "LEFT SQUARE BRACKET WITH QUILL|RIGHT SQUARE BRACKET WITH QUILL|DOUBLE QUESTION MARK"),
    (0x2048, "QUESTION EXCLAMATION MARK|EXCLAMATION QUESTION MARK|TIRONIAN SIGN ET"),
    (0x204b, "REVERSED PILCROW SIGN|BLACK LEFTWARDS BULLET|BLACK RIGHTWARDS BULLET|LOW ASTERISK"),
    (0x204f, "REVERSED SEMICOLON|CLOSE UP|TWO ASTERISKS ALIGNED VERTICALLY|COMMERCIAL MINUS SIGN"),
    (0x2053, "SWUNG DASH|INVERTED UNDERTIE|FLOWER PUNCTUATION MARK|THREE DOT PUNCTUATION"),
    (0x2057, "QUADRUPLE PRIME|FOUR DOT PUNCTUATION|FIVE DOT PUNCTUATION|TWO DOT PUNCTUATION"),
    (0x205b, "FOUR DOT MARK|DOTTED CROSS|TRICOLON|VERTICAL FOUR DOTS"),
    (0x20a0, "EURO-CURRENCY SIGN|COLON SIGN|CRUZEIRO SIGN|FRENCH FRANC SIGN|LIRA SIGN|MILL SIGN"),
    (0x20a6, "NAIRA SIGN|PESETA SIGN|RUPEE SIGN|WON SIGN|NEW SHEQEL SIGN|DONG SIGN|EURO SIGN"),
    (0x20ad, "KIP SIGN|TUGRIK SIGN|DRACHMA SIGN|GERMAN PENNY SIGN|PESO SIGN|GUARANI SIGN"),
    (0x20b3, "AUSTRAL SIGN|HRYVNIA SIGN|CEDI SIGN|LIVRE TOURNOIS SIGN|SPESMILO SIGN|TENGE SIGN"),
    (0x20b9, "INDIAN RUPEE SIGN|TURKISH LIRA SIGN|NORDIC MARK SIGN|MANAT SIGN|RUBLE SIGN|LARI SIGN"),
    (0x20bf, "BITCOIN SIGN"),
    (0x2100, "ACCOUNT OF|ADDRESSED TO THE SUBJECT|DOUBLE-STRUCK CAPITAL C|DEGREE CELSIUS"),
    (0x2104, "CENTRE LINE SYMBOL|CARE OF|CADA UNA|EULER CONSTANT|SCRUPLE|DEGREE FAHRENHEIT"),
    (0x210a, "SCRIPT SMALL G|SCRIPT CAPITAL H|BLACK-LETTER CAPITAL H|DOUBLE-STRUCK CAPITAL H"),
    (0x210e, "PLANCK CONSTANT|PLANCK CONSTANT OVER TWO PI|SCRIPT CAPITAL I|BLACK-LETTER CAPITAL I"),
    (0x2112, "SCRIPT CAPITAL L|SCRIPT SMALL L|L B BAR SYMBOL|DOUBLE-STRUCK CAPITAL N|NUMERO SIGN"),
    (0x2117, "SOUND RECORDING COPYRIGHT|SCRIPT CAPITAL P|DOUBLE-STRUCK CAPITAL P"),
    (0x211a, "DOUBLE-STRUCK CAPITAL Q|SCRIPT CAPITAL R|BLACK-LETTER CAPITAL R"),
    (0x211d, "DOUBLE-STRUCK CAPITAL R|PRESCRIPTION TAKE|RESPONSE|SERVICE MARK|TELEPHONE SIGN"),
    (0x2122, "TRADE MARK SIGN|VERSICLE|DOUBLE-STRUCK CAPITAL Z|OUNCE SIGN|OHM SIGN"),
    (0x2127, "INVERTED OHM SIGN|BLACK-LETTER CAPITAL Z|TURNED GREEK SMALL LETTER IOTA|KELVIN SIGN"),
    (0x212b, "ANGSTROM SIGN|SCRIPT CAPITAL B|BLACK-LETTER CAPITAL C|ESTIMATED SYMBOL"),
    (0x212f, "SCRIPT SMALL E|SCRIPT CAPITAL E|SCRIPT CAPITAL F|TURNED CAPITAL F|SCRIPT CAPITAL M"),
    (0x2134, "SCRIPT SMALL O|ALEF SYMBOL|BET SYMBOL|GIMEL SYMBOL|DALET SYMBOL|INFORMATION SOURCE"),
    (0x213a, "ROTATED CAPITAL Q|FACSIMILE SIGN|DOUBLE-STRUCK SMALL PI|DOUBLE-STRUCK SMALL GAMMA"),
    (0x213e, "DOUBLE-STRUCK CAPITAL GAMMA|DOUBLE-STRUCK CAPITAL PI|DOUBLE-STRUCK N-ARY SUMMATION"),
    (0x2141, "TURNED SANS-SERIF CAPITAL G|TURNED SANS-SERIF CAPITAL L"),
    (0x2143, "REVERSED SANS-SERIF CAPITAL L|TURNED SANS-SERIF CAPITAL Y"),
    (0x2145, "DOUBLE-STRUCK ITALIC CAPITAL D|DOUBLE-STRUCK ITALIC SMALL D"),
    (0x2147, "DOUBLE-STRUCK ITALIC SMALL E|DOUBLE-STRUCK ITALIC SMALL I"),
    (0x2149, "DOUBLE-STRUCK ITALIC SMALL J|PROPERTY LINE|TURNED AMPERSAND|PER SIGN|AKTIESELSKAB"),
    (0x214e, "TURNED SMALL F|SYMBOL FOR SAMARITAN SOURCE"),
    (0x2190, "LEFTWARDS ARROW|UPWARDS ARROW|RIGHTWARDS ARROW|DOWNWARDS ARROW|LEFT RIGHT ARROW"),
    (0x2195, "UP DOWN ARROW|NORTH WEST ARROW|NORTH EAST ARROW|SOUTH EAST ARROW|SOUTH WEST ARROW"),
    (0x219a, "LEFTWARDS ARROW WITH STROKE|RIGHTWARDS ARROW WITH STROKE|LEFTWARDS WAVE ARROW"),
    (0x219d, "RIGHTWARDS WAVE ARROW|LEFTWARDS TWO HEADED ARROW|UPWARDS TWO HEADED ARROW"),
    (0x21a0, "RIGHTWARDS TWO HEADED ARROW|DOWNWARDS TWO HEADED ARROW|LEFTWARDS ARROW WITH TAIL"),
    (0x21a3, "RIGHTWARDS ARROW WITH TAIL|LEFTWARDS ARROW FROM BAR|UPWARDS ARROW FROM BAR"),
    (0x21a6, "RIGHTWARDS ARROW FROM BAR|DOWNWARDS ARROW FROM BAR|UP DOWN ARROW WITH BASE"),
    (0x21a9, "LEFTWARDS ARROW WITH HOOK|RIGHTWARDS ARROW WITH HOOK|LEFTWARDS ARROW WITH LOOP"),
    (0x21ac, "RIGHTWARDS ARROW WITH LOOP|LEFT RIGHT WAVE ARROW|LEFT RIGHT ARROW WITH STROKE"),
    (0x21af, "DOWNWARDS ZIGZAG ARROW|UPWARDS ARROW WITH TIP LEFTWARDS"),
    (0x21b1, "UPWARDS ARROW WITH TIP RIGHTWARDS|DOWNWARDS ARROW WITH TIP LEFTWARDS"),
    (0x21b3, "DOWNWARDS ARROW WITH TIP RIGHTWARDS|RIGHTWARDS ARROW WITH CORNER DOWNWARDS"),
    (0x21b5, "DOWNWARDS ARROW WITH CORNER LEFTWARDS|ANTICLOCKWISE TOP SEMICIRCLE ARROW"),
    (0x21b7, "CLOCKWISE TOP SEMICIRCLE ARROW|NORTH WEST ARROW TO LONG BAR"),
    (0x21b9, "LEFTWARDS ARROW TO BAR OVER RIGHTWARDS ARROW TO BAR|ANTICLOCKWISE OPEN CIRCLE ARROW"),
    (0x21bb, "CLOCKWISE OPEN CIRCLE ARROW|LEFTWARDS HARPOON WITH BARB UPWARDS"),
    (0x21bd, "LEFTWARDS HARPOON WITH BARB DOWNWARDS|UPWARDS HARPOON WITH BARB RIGHTWARDS"),
    (0x21bf, "UPWARDS HARPOON WITH BARB LEFTWARDS|RIGHTWARDS HARPOON WITH BARB UPWARDS"),
    (0x21c1, "RIGHTWARDS HARPOON WITH BARB DOWNWARDS|DOWNWARDS HARPOON WITH BARB RIGHTWARDS"),
    (0x21c3, "DOWNWARDS HARPOON WITH BARB LEFTWARDS|RIGHTWARDS ARROW OVER LEFTWARDS ARROW"),
    (0x21c5, "UPWARDS ARROW LEFTWARDS OF DOWNWARDS ARROW|LEFTWARDS ARROW OVER RIGHTWARDS ARROW"),
    (0x21c7, "LEFTWARDS PAIRED ARROWS|UPWARDS PAIRED ARROWS|RIGHTWARDS PAIRED ARROWS"),
    (0x21ca, "DOWNWARDS PAIRED ARROWS|LEFTWARDS HARPOON OVER RIGHTWARDS HARPOON"),
    (0x21cc, "RIGHTWARDS HARPOON OVER LEFTWARDS HARPOON|LEFTWARDS DOUBLE ARROW WITH STROKE"),
    (0x21ce, "LEFT RIGHT DOUBLE ARROW WITH STROKE|RIGHTWARDS DOUBLE ARROW WITH STROKE"),
    (0x21d0, "LEFTWARDS DOUBLE ARROW|UPWARDS DOUBLE ARROW|RIGHTWARDS DOUBLE ARROW"),
    (0x21d3, "DOWNWARDS DOUBLE ARROW|LEFT RIGHT DOUBLE ARROW|UP DOWN DOUBLE ARROW"),
    (0x21d6, "NORTH WEST DOUBLE ARROW|NORTH EAST DOUBLE ARROW|SOUTH EAST DOUBLE ARROW"),
    (0x21d9, "SOUTH WEST DOUBLE ARROW|LEFTWARDS TRIPLE ARROW|RIGHTWARDS TRIPLE ARROW"),
    (0x21dc, "LEFTWARDS SQUIGGLE ARROW|RIGHTWARDS SQUIGGLE ARROW|UPWARDS ARROW WITH DOUBLE STROKE"),
    (0x21df, "DOWNWARDS ARROW WITH DOUBLE STROKE|LEFTWARDS DASHED ARROW|UPWARDS DASHED ARROW"),
    (0x21e2, "RIGHTWARDS DASHED ARROW|DOWNWARDS DASHED ARROW|LEFTWARDS ARROW TO BAR"),
    (0x21e5, "RIGHTWARDS ARROW TO BAR|LEFTWARDS WHITE ARROW|UPWARDS WHITE ARROW"),
    (0x21e8, "RIGHTWARDS WHITE ARROW|DOWNWARDS WHITE ARROW|UPWARDS WHITE ARROW FROM BAR"),
    (0x21eb, "UPWARDS WHITE ARROW ON PEDESTAL|UPWARDS WHITE ARROW ON PEDESTAL WITH HORIZONTAL BAR"),
    (0x21ed, "UPWARDS WHITE ARROW ON PEDESTAL WITH VERTICAL BAR|UPWARDS WHITE DOUBLE ARROW"),
    (0x21ef, "UPWARDS WHITE DOUBLE ARROW ON PEDESTAL|RIGHTWARDS WHITE ARROW FROM WALL"),
    (0x21f1, "NORTH WEST ARROW TO CORNER|SOUTH EAST ARROW TO CORNER|UP DOWN WHITE ARROW"),
    (0x21f4, "RIGHT ARROW WITH SMALL CIRCLE|DOWNWARDS ARROW LEFTWARDS OF UPWARDS ARROW"),
    (0x21f6, "THREE RIGHTWARDS ARROWS|LEFTWARDS ARROW WITH VERTICAL STROKE"),
    (0x21f8, "RIGHTWARDS ARROW WITH VERTICAL STROKE|LEFT RIGHT ARROW WITH VERTICAL STROKE"),
    (0x21fa, "LEFTWARDS ARROW WITH DOUBLE VERTICAL STROKE"),
    (0x21fb, "RIGHTWARDS ARROW WITH DOUBLE VERTICAL STROKE"),
    (0x21fc, "LEFT RIGHT ARROW WITH DOUBLE VERTICAL STROKE|LEFTWARDS OPEN-HEADED ARROW"),
    (0x21fe, "RIGHTWARDS OPEN-HEADED ARROW|LEFT RIGHT OPEN-HEADED ARROW"),
    (0x2200, "FOR ALL|COMPLEMENT|PARTIAL DIFFERENTIAL|THERE EXISTS|THERE DOES NOT EXIST|EMPTY SET"),
    (0x2206, "INCREMENT|NABLA|ELEMENT OF|NOT AN ELEMENT OF|SMALL ELEMENT OF|CONTAINS AS MEMBER"),
    (0x220c, "DOES NOT CONTAIN AS MEMBER|SMALL CONTAINS AS MEMBER|END OF PROOF|N-ARY PRODUCT"),
    (0x2210, "N-ARY COPRODUCT|N-ARY SUMMATION|MINUS SIGN|MINUS-OR-PLUS SIGN|DOT PLUS"),
    (0x2215, "DIVISION SLASH|SET MINUS|ASTERISK OPERATOR|RING OPERATOR|BULLET OPERATOR|SQUARE ROOT"),
    (0x221b, "CUBE ROOT|FOURTH ROOT|PROPORTIONAL TO|INFINITY|RIGHT ANGLE|ANGLE|MEASURED ANGLE"),
    (0x2222, "SPHERICAL ANGLE|DIVIDES|DOES NOT DIVIDE|PARALLEL TO|NOT PARALLEL TO|LOGICAL AND"),
    (0x2228, "LOGICAL OR|INTERSECTION|UNION|INTEGRAL|DOUBLE INTEGRAL|TRIPLE INTEGRAL"),
    (0x222e, "CONTOUR INTEGRAL|SURFACE INTEGRAL|VOLUME INTEGRAL|CLOCKWISE INTEGRAL"),
    (0x2232, "CLOCKWISE CONTOUR INTEGRAL|ANTICLOCKWISE CONTOUR INTEGRAL|THEREFORE|BECAUSE|RATIO"),
    (0x2237, "PROPORTION|DOT MINUS|EXCESS|GEOMETRIC PROPORTION|HOMOTHETIC|TILDE OPERATOR"),
    (0x223d, "REVERSED TILDE|INVERTED LAZY S|SINE WAVE|WREATH PRODUCT|NOT TILDE|MINUS TILDE"),
    (0x2243, "ASYMPTOTICALLY EQUAL TO|NOT ASYMPTOTICALLY EQUAL TO|APPROXIMATELY EQUAL TO"),
    (0x2246, "APPROXIMATELY BUT NOT ACTUALLY EQUAL TO|NEITHER APPROXIMATELY NOR ACTUALLY EQUAL TO"),
    (0x2248, "ALMOST EQUAL TO|NOT ALMOST EQUAL TO|ALMOST EQUAL OR EQUAL TO|TRIPLE TILDE"),
    (0x224c, "ALL EQUAL TO|EQUIVALENT TO|GEOMETRICALLY EQUIVALENT TO|DIFFERENCE BETWEEN"),
    (0x2250, "APPROACHES THE LIMIT|GEOMETRICALLY EQUAL TO|APPROXIMATELY EQUAL TO OR THE IMAGE OF"),
    (0x2253, "IMAGE OF OR APPROXIMATELY EQUAL TO|COLON EQUALS|EQUALS COLON|RING IN EQUAL TO"),
    (0x2257, "RING EQUAL TO|CORRESPONDS TO|ESTIMATES|EQUIANGULAR TO|STAR EQUALS|DELTA EQUAL TO"),
    (0x225d, "EQUAL TO BY DEFINITION|MEASURED BY|QUESTIONED EQUAL TO|NOT EQUAL TO|IDENTICAL TO"),
    (0x2262, "NOT IDENTICAL TO|STRICTLY EQUIVALENT TO|LESS-THAN OR EQUAL TO"),
    (0x2265, "GREATER-THAN OR EQUAL TO|LESS-THAN OVER EQUAL TO|GREATER-THAN OVER EQUAL TO"),
    (0x2268, "LESS-THAN BUT NOT EQUAL TO|GREATER-THAN BUT NOT EQUAL TO|MUCH LESS-THAN"),
    (0x226b, "MUCH GREATER-THAN|BETWEEN|NOT EQUIVALENT TO|NOT LESS-THAN|NOT GREATER-THAN"),
    (0x2270, "NEITHER LESS-THAN NOR EQUAL TO|NEITHER GREATER-THAN NOR EQUAL TO"),
    (0x2272, "LESS-THAN OR EQUIVALENT TO|GREATER-THAN OR EQUIVALENT TO"),
    (0x2274, "NEITHER LESS-THAN NOR EQUIVALENT TO|NEITHER GREATER-THAN NOR EQUIVALENT TO"),
    (0x2276, "LESS-THAN OR GREATER-THAN|GREATER-THAN OR LESS-THAN"),
    (0x2278, "NEITHER LESS-THAN NOR GREATER-THAN|NEITHER GREATER-THAN NOR LESS-THAN|PRECEDES"),
    (0x227b, "SUCCEEDS|PRECEDES OR EQUAL TO|SUCCEEDS OR EQUAL TO|PRECEDES OR EQUIVALENT TO"),
    (0x227f, "SUCCEEDS OR EQUIVALENT TO|DOES NOT PRECEDE|DOES NOT SUCCEED|SUBSET OF|SUPERSET OF"),
    (0x2284, "NOT A SUBSET OF|NOT A SUPERSET OF|SUBSET OF OR EQUAL TO|SUPERSET OF OR EQUAL TO"),
    (0x2288, "NEITHER A SUBSET OF NOR EQUAL TO|NEITHER A SUPERSET OF NOR EQUAL TO"),
    (0x228a, "SUBSET OF WITH NOT EQUAL TO|SUPERSET OF WITH NOT EQUAL TO|MULTISET"),
    (0x228d, "MULTISET MULTIPLICATION|MULTISET UNION|SQUARE IMAGE OF|SQUARE ORIGINAL OF"),
    (0x2291, "SQUARE IMAGE OF OR EQUAL TO|SQUARE ORIGINAL OF OR EQUAL TO|SQUARE CAP|SQUARE CUP"),
    (0x2295, "CIRCLED PLUS|CIRCLED MINUS|CIRCLED TIMES|CIRCLED DIVISION SLASH|CIRCLED DOT OPERATOR"),
    (0x229a, "CIRCLED RING OPERATOR|CIRCLED ASTERISK OPERATOR|CIRCLED EQUALS|CIRCLED DASH"),
    (0x229e, "SQUARED PLUS|SQUARED MINUS|SQUARED TIMES|SQUARED DOT OPERATOR|RIGHT TACK|LEFT TACK"),
    (0x22a4, "DOWN TACK|UP TACK|ASSERTION|MODELS|TRUE|FORCES|TRIPLE VERTICAL BAR RIGHT TURNSTILE"),
    (0x22ab, "DOUBLE VERTICAL BAR DOUBLE RIGHT TURNSTILE|DOES NOT PROVE|NOT TRUE|DOES NOT FORCE"),
    (0x22af, "NEGATED DOUBLE VERTICAL BAR DOUBLE RIGHT TURNSTILE|PRECEDES UNDER RELATION"),
    (0x22b1, "SUCCEEDS UNDER RELATION|NORMAL SUBGROUP OF|CONTAINS AS NORMAL SUBGROUP"),
    (0x22b4, "NORMAL SUBGROUP OF OR EQUAL TO|CONTAINS AS NORMAL SUBGROUP OR EQUAL TO|ORIGINAL OF"),
    (0x22b7, "IMAGE OF|MULTIMAP|HERMITIAN CONJUGATE MATRIX|INTERCALATE|XOR|NAND|NOR"),
    (0x22be, "RIGHT ANGLE WITH ARC|RIGHT TRIANGLE|N-ARY LOGICAL AND|N-ARY LOGICAL OR"),
    (0x22c2, "N-ARY INTERSECTION|N-ARY UNION|DIAMOND OPERATOR|DOT OPERATOR|STAR OPERATOR"),
    (0x22c7, "DIVISION TIMES|BOWTIE|LEFT NORMAL FACTOR SEMIDIRECT PRODUCT"),
    (0x22ca, "RIGHT NORMAL FACTOR SEMIDIRECT PRODUCT|LEFT SEMIDIRECT PRODUCT"),
    (0x22cc, "RIGHT SEMIDIRECT PRODUCT|REVERSED TILDE EQUALS|CURLY LOGICAL OR|CURLY LOGICAL AND"),
    (0x22d0, "DOUBLE SUBSET|DOUBLE SUPERSET|DOUBLE INTERSECTION|DOUBLE UNION|PITCHFORK"),
    (0x22d5, "EQUAL AND PARALLEL TO|LESS-THAN WITH DOT|GREATER-THAN WITH DOT|VERY MUCH LESS-THAN"),
    (0x22d9, "VERY MUCH GREATER-THAN|LESS-THAN EQUAL TO OR GREATER-THAN"),
    (0x22db, "GREATER-THAN EQUAL TO OR LESS-THAN|EQUAL TO OR LESS-THAN|EQUAL TO OR GREATER-THAN"),
    (0x22de, "EQUAL TO OR PRECEDES|EQUAL TO OR SUCCEEDS|DOES NOT PRECEDE OR EQUAL"),
    (0x22e1, "DOES NOT SUCCEED OR EQUAL|NOT SQUARE IMAGE OF OR EQUAL TO"),
    (0x22e3, "NOT SQUARE ORIGINAL OF OR EQUAL TO|SQUARE IMAGE OF OR NOT EQUAL TO"),
    (0x22e5, "SQUARE ORIGINAL OF OR NOT EQUAL TO|LESS-THAN BUT NOT EQUIVALENT TO"),
    (0x22e7, "GREATER-THAN BUT NOT EQUIVALENT TO|PRECEDES BUT NOT EQUIVALENT TO"),
    (0x22e9, "SUCCEEDS BUT NOT EQUIVALENT TO|NOT NORMAL SUBGROUP OF"),
    (0x22eb, "DOES NOT CONTAIN AS NORMAL SUBGROUP|NOT NORMAL SUBGROUP OF OR EQUAL TO"),
    (0x22ed, "DOES NOT CONTAIN AS NORMAL SUBGROUP OR EQUAL|VERTICAL ELLIPSIS"),
    (0x22ef, "MIDLINE HORIZONTAL ELLIPSIS|UP RIGHT DIAGONAL ELLIPSIS|DOWN RIGHT DIAGONAL ELLIPSIS"),
    (0x22f2, "ELEMENT OF WITH LONG HORIZONTAL STROKE"),
    (0x22f3, "ELEMENT OF WITH VERTICAL BAR AT END OF HORIZONTAL STROKE"),
    (0x22f4, "SMALL ELEMENT OF WITH VERTICAL BAR AT END OF HORIZONTAL STROKE"),
    (0x22f5, "ELEMENT OF WITH DOT ABOVE|ELEMENT OF WITH OVERBAR|SMALL ELEMENT OF WITH OVERBAR"),
    (0x22f8, "ELEMENT OF WITH UNDERBAR|ELEMENT OF WITH TWO HORIZONTAL STROKES"),
    (0x22fa, "CONTAINS WITH LONG HORIZONTAL STROKE"),
    (0x22fb, "CONTAINS WITH VERTICAL BAR AT END OF HORIZONTAL STROKE"),
    (0x22fc, "SMALL CONTAINS WITH VERTICAL BAR AT END OF HORIZONTAL STROKE|CONTAINS WITH OVERBAR"),
    (0x22fe, "SMALL CONTAINS WITH OVERBAR|Z NOTATION BAG MEMBERSHIP"),
    (0x2500, "BOX DRAWINGS LIGHT HORIZONTAL|BOX DRAWINGS HEAVY HORIZONTAL"),
    (0x2502, "BOX DRAWINGS LIGHT VERTICAL|BOX DRAWINGS HEAVY VERTICAL"),
    (0x2504, "BOX DRAWINGS LIGHT TRIPLE DASH HORIZONTAL|BOX DRAWINGS HEAVY TRIPLE DASH HORIZONTAL"),
    (0x2506, "BOX DRAWINGS LIGHT TRIPLE DASH VERTICAL|BOX DRAWINGS HEAVY TRIPLE DASH VERTICAL"),
    (0x2508, "BOX DRAWINGS LIGHT QUADRUPLE DASH HORIZONTAL"),
    (0x2509, "BOX DRAWINGS HEAVY QUADRUPLE DASH HORIZONTAL"),
    (0x250a, "BOX DRAWINGS LIGHT QUADRUPLE DASH VERTICAL"),
    (0x250b, "BOX DRAWINGS HEAVY QUADRUPLE DASH VERTICAL|BOX DRAWINGS LIGHT DOWN AND RIGHT"),
    (0x250d, "BOX DRAWINGS DOWN LIGHT AND RIGHT HEAVY|BOX DRAWINGS DOWN HEAVY AND RIGHT LIGHT"),
    (0x250f, "BOX DRAWINGS HEAVY DOWN AND RIGHT|BOX DRAWINGS LIGHT DOWN AND LEFT"),
    (0x2511, "BOX DRAWINGS DOWN LIGHT AND LEFT HEAVY|BOX DRAWINGS DOWN HEAVY AND LEFT LIGHT"),
    (0x2513, "BOX DRAWINGS HEAVY DOWN AND LEFT|BOX DRAWINGS LIGHT UP AND RIGHT"),
    (0x2515, "BOX DRAWINGS UP LIGHT AND RIGHT HEAVY|BOX DRAWINGS UP HEAVY AND RIGHT LIGHT"),
    (0x2517, "BOX DRAWINGS HEAVY UP AND RIGHT|BOX DRAWINGS LIGHT UP AND LEFT"),
    (0x2519, "BOX DRAWINGS UP LIGHT AND LEFT HEAVY|BOX DRAWINGS UP HEAVY AND LEFT LIGHT"),
    (0x251b, "BOX DRAWINGS HEAVY UP AND LEFT|BOX DRAWINGS LIGHT VERTICAL AND RIGHT"),
    (0x251d, "BOX DRAWINGS VERTICAL LIGHT AND RIGHT HEAVY"),
    (0x251e, "BOX DRAWINGS UP HEAVY AND RIGHT DOWN LIGHT"),
    (0x251f, "BOX DRAWINGS DOWN HEAVY AND RIGHT UP LIGHT"),
    (0x2520, "BOX DRAWINGS VERTICAL HEAVY AND RIGHT LIGHT"),
    (0x2521, "BOX DRAWINGS DOWN LIGHT AND RIGHT UP HEAVY"),
    (0x2522, "BOX DRAWINGS UP LIGHT AND RIGHT DOWN HEAVY|BOX DRAWINGS HEAVY VERTICAL AND RIGHT"),
    (0x2524, "BOX DRAWINGS LIGHT VERTICAL AND LEFT|BOX DRAWINGS VERTICAL LIGHT AND LEFT HEAVY"),
    (0x2526, "BOX DRAWINGS UP HEAVY AND LEFT DOWN LIGHT|BOX DRAWINGS DOWN HEAVY AND LEFT UP LIGHT"),
    (0x2528, "BOX DRAWINGS VERTICAL HEAVY AND LEFT LIGHT|BOX DRAWINGS DOWN LIGHT AND LEFT UP HEAVY"),
    (0x252a, "BOX DRAWINGS UP LIGHT AND LEFT DOWN HEAVY|BOX DRAWINGS HEAVY VERTICAL AND LEFT"),
    (0x252c, "BOX DRAWINGS LIGHT DOWN AND HORIZONTAL|BOX DRAWINGS LEFT HEAVY AND RIGHT DOWN LIGHT"),
    (0x252e, "BOX DRAWINGS RIGHT HEAVY AND LEFT DOWN LIGHT"),
    (0x252f, "BOX DRAWINGS DOWN LIGHT AND HORIZONTAL HEAVY"),
    (0x2530, "BOX DRAWINGS DOWN HEAVY AND HORIZONTAL LIGHT"),
    (0x2531, "BOX DRAWINGS RIGHT LIGHT AND LEFT DOWN HEAVY"),
    (0x2532, "BOX DRAWINGS LEFT LIGHT AND RIGHT DOWN HEAVY|BOX DRAWINGS HEAVY DOWN AND HORIZONTAL"),
    (0x2534, "BOX DRAWINGS LIGHT UP AND HORIZONTAL|BOX DRAWINGS LEFT HEAVY AND RIGHT UP LIGHT"),
    (0x2536, "BOX DRAWINGS RIGHT HEAVY AND LEFT UP LIGHT"),
    (0x2537, "BOX DRAWINGS UP LIGHT AND HORIZONTAL HEAVY"),
    (0x2538, "BOX DRAWINGS UP HEAVY AND HORIZONTAL LIGHT"),
    (0x2539, "BOX DRAWINGS RIGHT LIGHT AND LEFT UP HEAVY"),
    (0x253a, "BOX DRAWINGS LEFT LIGHT AND RIGHT UP HEAVY|BOX DRAWINGS HEAVY UP AND HORIZONTAL"),
    (0x253c, "BOX DRAWINGS LIGHT VERTICAL AND HORIZONTAL"),
    (0x253d, "BOX DRAWINGS LEFT HEAVY AND RIGHT VERTICAL LIGHT"),
    (0x253e, "BOX DRAWINGS RIGHT HEAVY AND LEFT VERTICAL LIGHT"),
    (0x253f, "BOX DRAWINGS VERTICAL LIGHT AND HORIZONTAL HEAVY"),
    (0x2540, "BOX DRAWINGS UP HEAVY AND DOWN HORIZONTAL LIGHT"),
    (0x2541, "BOX DRAWINGS DOWN HEAVY AND UP HORIZONTAL LIGHT"),
    (0x2542, "BOX DRAWINGS VERTICAL HEAVY AND HORIZONTAL LIGHT"),
    (0x2543, "BOX DRAWINGS LEFT UP HEAVY AND RIGHT DOWN LIGHT"),
    (0x2544, "BOX DRAWINGS RIGHT UP HEAVY AND LEFT DOWN LIGHT"),
    (0x2545, "BOX DRAWINGS LEFT DOWN HEAVY AND RIGHT UP LIGHT"),
    (0x2546, "BOX DRAWINGS RIGHT DOWN HEAVY AND LEFT UP LIGHT"),
    (0x2547, "BOX DRAWINGS DOWN LIGHT AND UP HORIZONTAL HEAVY"),
    (0x2548, "BOX DRAWINGS UP LIGHT AND DOWN HORIZONTAL HEAVY"),
    (0x2549, "BOX DRAWINGS RIGHT LIGHT AND LEFT VERTICAL HEAVY"),
    (0x254a, "BOX DRAWINGS LEFT LIGHT AND RIGHT VERTICAL HEAVY"),
    (0x254b, "BOX DRAWINGS HEAVY VERTICAL AND HORIZONTAL|BOX DRAWINGS LIGHT DOUBLE DASH HORIZONTAL"),
    (0x254d, "BOX DRAWINGS HEAVY DOUBLE DASH HORIZONTAL|BOX DRAWINGS LIGHT DOUBLE DASH VERTICAL"),
    (0x254f, "BOX DRAWINGS HEAVY DOUBLE DASH VERTICAL|BOX DRAWINGS DOUBLE HORIZONTAL"),
    (0x2551, "BOX DRAWINGS DOUBLE VERTICAL|BOX DRAWINGS DOWN SINGLE AND RIGHT DOUBLE"),
    (0x2553, "BOX DRAWINGS DOWN DOUBLE AND RIGHT SINGLE|BOX DRAWINGS DOUBLE DOWN AND RIGHT"),
    (0x2555, "BOX DRAWINGS DOWN SINGLE AND LEFT DOUBLE|BOX DRAWINGS DOWN DOUBLE AND LEFT SINGLE"),
    (0x2557, "BOX DRAWINGS DOUBLE DOWN AND LEFT|BOX DRAWINGS UP SINGLE AND RIGHT DOUBLE"),
    (0x2559, "BOX DRAWINGS UP DOUBLE AND RIGHT SINGLE|BOX DRAWINGS DOUBLE UP AND RIGHT"),
    (0x255b, "BOX DRAWINGS UP SINGLE AND LEFT DOUBLE|BOX DRAWINGS UP DOUBLE AND LEFT SINGLE"),
    (0x255d, "BOX DRAWINGS DOUBLE UP AND LEFT|BOX DRAWINGS VERTICAL SINGLE AND RIGHT DOUBLE"),
    (0x255f, "BOX DRAWINGS VERTICAL DOUBLE AND RIGHT SINGLE|BOX DRAWINGS DOUBLE VERTICAL AND RIGHT"),
    (0x2561, "BOX DRAWINGS VERTICAL SINGLE AND LEFT DOUBLE"),
    (0x2562, "BOX DRAWINGS VERTICAL DOUBLE AND LEFT SINGLE|BOX DRAWINGS DOUBLE VERTICAL AND LEFT"),
    (0x2564, "BOX DRAWINGS DOWN SINGLE AND HORIZONTAL DOUBLE"),
    (0x2565, "BOX DRAWINGS DOWN DOUBLE AND HORIZONTAL SINGLE"),
    (0x2566, "BOX DRAWINGS DOUBLE DOWN AND HORIZONTAL|BOX DRAWINGS UP SINGLE AND HORIZONTAL DOUBLE"),
    (0x2568, "BOX DRAWINGS UP DOUBLE AND HORIZONTAL SINGLE|BOX DRAWINGS DOUBLE UP AND HORIZONTAL"),
    (0x256a, "BOX DRAWINGS VERTICAL SINGLE AND HORIZONTAL DOUBLE"),
    (0x256b, "BOX DRAWINGS VERTICAL DOUBLE AND HORIZONTAL SINGLE"),
    (0x256c, "BOX DRAWINGS DOUBLE VERTICAL AND HORIZONTAL|BOX DRAWINGS LIGHT ARC DOWN AND RIGHT"),
    (0x256e, "BOX DRAWINGS LIGHT ARC DOWN AND LEFT|BOX DRAWINGS LIGHT ARC UP AND LEFT"),
    (0x2570, "BOX DRAWINGS LIGHT ARC UP AND RIGHT"),
    (0x2571, "BOX DRAWINGS LIGHT DIAGONAL UPPER RIGHT TO LOWER LEFT"),
    (0x2572, "BOX DRAWINGS LIGHT DIAGONAL UPPER LEFT TO LOWER RIGHT"),
    (0x2573, "BOX DRAWINGS LIGHT DIAGONAL CROSS|BOX DRAWINGS LIGHT LEFT|BOX DRAWINGS LIGHT UP"),
    (0x2576, "BOX DRAWINGS LIGHT RIGHT|BOX DRAWINGS LIGHT DOWN|BOX DRAWINGS HEAVY LEFT"),
    (0x2579, "BOX DRAWINGS HEAVY UP|BOX DRAWINGS HEAVY RIGHT|BOX DRAWINGS HEAVY DOWN"),
    (0x257c, "BOX DRAWINGS LIGHT LEFT AND HEAVY RIGHT|BOX DRAWINGS LIGHT UP AND HEAVY DOWN"),
    (0x257e, "BOX DRAWINGS HEAVY LEFT AND LIGHT RIGHT|BOX DRAWINGS HEAVY UP AND LIGHT DOWN"),
    (0x2580, "UPPER HALF BLOCK|LOWER ONE EIGHTH BLOCK|LOWER ONE QUARTER BLOCK"),
    (0x2583, "LOWER THREE EIGHTHS BLOCK|LOWER HALF BLOCK|LOWER FIVE EIGHTHS BLOCK"),
    (0x2586, "LOWER THREE QUARTERS BLOCK|LOWER SEVEN EIGHTHS BLOCK|FULL BLOCK"),
    (0x2589, "LEFT SEVEN EIGHTHS BLOCK|LEFT THREE QUARTERS BLOCK|LEFT FIVE EIGHTHS BLOCK"),
    (0x258c, "LEFT HALF BLOCK|LEFT THREE EIGHTHS BLOCK|LEFT ONE QUARTER BLOCK"),
    (0x258f, "LEFT ONE EIGHTH BLOCK|RIGHT HALF BLOCK|LIGHT SHADE|MEDIUM SHADE|DARK SHADE"),
    (0x2594, "UPPER ONE EIGHTH BLOCK|RIGHT ONE EIGHTH BLOCK|QUADRANT LOWER LEFT"),
    (0x2597, "QUADRANT LOWER RIGHT|QUADRANT UPPER LEFT"),
    (0x2599, "QUADRANT UPPER LEFT AND LOWER LEFT AND LOWER RIGHT"),
    (0x259a, "QUADRANT UPPER LEFT AND LOWER RIGHT"),
    (0x259b, "QUADRANT UPPER LEFT AND UPPER RIGHT AND LOWER LEFT"),
    (0x259c, "QUADRANT UPPER LEFT AND UPPER RIGHT AND LOWER RIGHT|QUADRANT UPPER RIGHT"),
    (0x259e, "QUADRANT UPPER RIGHT AND LOWER LEFT"),
    (0x259f, "QUADRANT UPPER RIGHT AND LOWER LEFT AND LOWER RIGHT|BLACK SQUARE|WHITE SQUARE"),
    (0x25a2, "WHITE SQUARE WITH ROUNDED CORNERS|WHITE SQUARE CONTAINING BLACK SMALL SQUARE"),
    (0x25a4, "SQUARE WITH HORIZONTAL FILL|SQUARE WITH VERTICAL FILL"),
    (0x25a6, "SQUARE WITH ORTHOGONAL CROSSHATCH FILL|SQUARE WITH UPPER LEFT TO LOWER RIGHT FILL"),
    (0x25a8, "SQUARE WITH UPPER RIGHT TO LOWER LEFT FILL|SQUARE WITH DIAGONAL CROSSHATCH FILL"),
    (0x25aa, "BLACK SMALL SQUARE|WHITE SMALL SQUARE|BLACK RECTANGLE|WHITE RECTANGLE"),
    (0x25ae, "BLACK VERTICAL RECTANGLE|WHITE VERTICAL RECTANGLE|BLACK PARALLELOGRAM"),
    (0x25b1, "WHITE PARALLELOGRAM|BLACK UP-POINTING TRIANGLE|WHITE UP-POINTING TRIANGLE"),
    (0x25b4, "BLACK UP-POINTING SMALL TRIANGLE|WHITE UP-POINTING SMALL TRIANGLE"),
    (0x25b6, "BLACK RIGHT-POINTING TRIANGLE|WHITE RIGHT-POINTING TRIANGLE"),
    (0x25b8, "BLACK RIGHT-POINTING SMALL TRIANGLE|WHITE RIGHT-POINTING SMALL TRIANGLE"),
    (0x25ba, "BLACK RIGHT-POINTING POINTER|WHITE RIGHT-POINTING POINTER"),
    (0x25bc, "BLACK DOWN-POINTING TRIANGLE|WHITE DOWN-POINTING TRIANGLE"),
    (0x25be, "BLACK DOWN-POINTING SMALL TRIANGLE|WHITE DOWN-POINTING SMALL TRIANGLE"),
    (0x25c0, "BLACK LEFT-POINTING TRIANGLE|WHITE LEFT-POINTING TRIANGLE"),
    (0x25c2, "BLACK LEFT-POINTING SMALL TRIANGLE|WHITE LEFT-POINTING SMALL TRIANGLE"),
    (0x25c4, "BLACK LEFT-POINTING POINTER|WHITE LEFT-POINTING POINTER|BLACK DIAMOND|WHITE DIAMOND"),
    (0x25c8, "WHITE DIAMOND CONTAINING BLACK SMALL DIAMOND|FISHEYE|LOZENGE|WHITE CIRCLE"),
    (0x25cc, "DOTTED CIRCLE|CIRCLE WITH VERTICAL FILL|BULLSEYE|BLACK CIRCLE"),
    (0x25d0, "CIRCLE WITH LEFT HALF BLACK|CIRCLE WITH RIGHT HALF BLACK"),
    (0x25d2, "CIRCLE WITH LOWER HALF BLACK|CIRCLE WITH UPPER HALF BLACK"),
    (0x25d4, "CIRCLE WITH UPPER RIGHT QUADRANT BLACK|CIRCLE WITH ALL BUT UPPER LEFT QUADRANT BLACK"),
    (0x25d6, "LEFT HALF BLACK CIRCLE|RIGHT HALF BLACK CIRCLE|INVERSE BULLET|INVERSE WHITE CIRCLE"),
    (0x25da, "UPPER HALF INVERSE WHITE CIRCLE|LOWER HALF INVERSE WHITE CIRCLE"),
    (0x25dc, "UPPER LEFT QUADRANT CIRCULAR ARC|UPPER RIGHT QUADRANT CIRCULAR ARC"),
    (0x25de, "LOWER RIGHT QUADRANT CIRCULAR ARC|LOWER LEFT QUADRANT CIRCULAR ARC|UPPER HALF CIRCLE"),
    (0x25e1, "LOWER HALF CIRCLE|BLACK LOWER RIGHT TRIANGLE|BLACK LOWER LEFT TRIANGLE"),
    (0x25e4, "BLACK UPPER LEFT TRIANGLE|BLACK UPPER RIGHT TRIANGLE|WHITE BULLET"),
    (0x25e7, "SQUARE WITH LEFT HALF BLACK|SQUARE WITH RIGHT HALF BLACK"),
    (0x25e9, "SQUARE WITH UPPER LEFT DIAGONAL HALF BLACK"),
    (0x25ea, "SQUARE WITH LOWER RIGHT DIAGONAL HALF BLACK"),
    (0x25eb, "WHITE SQUARE WITH VERTICAL BISECTING LINE|WHITE UP-POINTING TRIANGLE WITH DOT"),
    (0x25ed, "UP-POINTING TRIANGLE WITH LEFT HALF BLACK|UP-POINTING TRIANGLE WITH RIGHT HALF BLACK"),
    (0x25ef, "LARGE CIRCLE|WHITE SQUARE WITH UPPER LEFT QUADRANT"),
    (0x25f1, "WHITE SQUARE WITH LOWER LEFT QUADRANT|WHITE SQUARE WITH LOWER RIGHT QUADRANT"),
    (0x25f3, "WHITE SQUARE WITH UPPER RIGHT QUADRANT|WHITE CIRCLE WITH UPPER LEFT QUADRANT"),
    (0x25f5, "WHITE CIRCLE WITH LOWER LEFT QUADRANT|WHITE CIRCLE WITH LOWER RIGHT QUADRANT"),
    (0x25f7, "WHITE CIRCLE WITH UPPER RIGHT QUADRANT|UPPER LEFT TRIANGLE|UPPER RIGHT TRIANGLE"),
    (0x25fa, "LOWER LEFT TRIANGLE|WHITE MEDIUM SQUARE|BLACK MEDIUM SQUARE"),
    (0x25fd, "WHITE MEDIUM SMALL SQUARE|BLACK MEDIUM SMALL SQUARE|LOWER RIGHT TRIANGLE"),
    (0x2600, "BLACK SUN WITH RAYS|CLOUD|UMBRELLA|SNOWMAN|COMET|BLACK STAR|WHITE STAR|LIGHTNING"),
    (0x2608, "THUNDERSTORM|SUN|ASCENDING NODE|DESCENDING NODE|CONJUNCTION|OPPOSITION"),
    (0x260e, "BLACK TELEPHONE|WHITE TELEPHONE|BALLOT BOX|BALLOT BOX WITH CHECK|BALLOT BOX WITH X"),
    (0x2613, "SALTIRE|UMBRELLA WITH RAIN DROPS|HOT BEVERAGE|WHITE SHOGI PIECE|BLACK SHOGI PIECE"),
    (0x2618, "SHAMROCK|REVERSED ROTATED FLORAL HEART BULLET|BLACK LEFT POINTING INDEX"),
    (0x261b, "BLACK RIGHT POINTING INDEX|WHITE LEFT POINTING INDEX|WHITE UP POINTING INDEX"),
    (0x261e, "WHITE RIGHT POINTING INDEX|WHITE DOWN POINTING INDEX|SKULL AND CROSSBONES"),
    (0x2621, "CAUTION SIGN|RADIOACTIVE SIGN|BIOHAZARD SIGN|CADUCEUS|ANKH|ORTHODOX CROSS|CHI RHO"),
    (0x2628, "CROSS OF LORRAINE|CROSS OF JERUSALEM|STAR AND CRESCENT|FARSI SYMBOL|ADI SHAKTI"),
    (0x262d, "HAMMER AND SICKLE|PEACE SYMBOL|YIN YANG|TRIGRAM FOR HEAVEN|TRIGRAM FOR LAKE"),
    (0x2632, "TRIGRAM FOR FIRE|TRIGRAM FOR THUNDER|TRIGRAM FOR WIND|TRIGRAM FOR WATER"),
    (0x2636, "TRIGRAM FOR MOUNTAIN|TRIGRAM FOR EARTH|WHEEL OF DHARMA|WHITE FROWNING FACE"),
    (0x263a, "WHITE SMILING FACE|BLACK SMILING FACE|WHITE SUN WITH RAYS|FIRST QUARTER MOON"),
    (0x263e, "LAST QUARTER MOON|MERCURY|FEMALE SIGN|EARTH|MALE SIGN|JUPITER|SATURN|URANUS|NEPTUNE"),
    (0x2647, "PLUTO|ARIES|TAURUS|GEMINI|CANCER|LEO|VIRGO|LIBRA|SCORPIUS|SAGITTARIUS|CAPRICORN"),
    (0x2652, "AQUARIUS|PISCES|WHITE CHESS KING|WHITE CHESS QUEEN|WHITE CHESS ROOK"),
    (0x2657, "WHITE CHESS BISHOP|WHITE CHESS KNIGHT|WHITE CHESS PAWN|BLACK CHESS KING"),
    (0x265b, "BLACK CHESS QUEEN|BLACK CHESS ROOK|BLACK CHESS BISHOP|BLACK CHESS KNIGHT"),
    (0x265f, "BLACK CHESS PAWN|BLACK SPADE SUIT|WHITE HEART SUIT|WHITE DIAMOND SUIT"),
    (0x2663, "BLACK CLUB SUIT|WHITE SPADE SUIT|BLACK HEART SUIT|BLACK DIAMOND SUIT|WHITE CLUB SUIT"),
    (0x2668, "HOT SPRINGS|QUARTER NOTE|EIGHTH NOTE|BEAMED EIGHTH NOTES|BEAMED SIXTEENTH NOTES"),
    (0x266d, "MUSIC FLAT SIGN|MUSIC NATURAL SIGN|MUSIC SHARP SIGN|WEST SYRIAC CROSS"),
    (0x2671, "EAST SYRIAC CROSS|UNIVERSAL RECYCLING SYMBOL|RECYCLING SYMBOL FOR TYPE-1 PLASTICS"),
    (0x2674, "RECYCLING SYMBOL FOR TYPE-2 PLASTICS|RECYCLING SYMBOL FOR TYPE-3 PLASTICS"),
    (0x2676, "RECYCLING SYMBOL FOR TYPE-4 PLASTICS|RECYCLING SYMBOL FOR TYPE-5 PLASTICS"),
    (0x2678, "RECYCLING SYMBOL FOR TYPE-6 PLASTICS|RECYCLING SYMBOL FOR TYPE-7 PLASTICS"),
    (0x267a, "RECYCLING SYMBOL FOR GENERIC MATERIALS|BLACK UNIVERSAL RECYCLING SYMBOL"),
    (0x267c, "RECYCLED PAPER SYMBOL|PARTIALLY-RECYCLED PAPER SYMBOL|PERMANENT PAPER SIGN"),
    (0x267f, "WHEELCHAIR SYMBOL|DIE FACE-1|DIE FACE-2|DIE FACE-3|DIE FACE-4|DIE FACE-5|DIE FACE-6"),
    (0x2686, "WHITE CIRCLE WITH DOT RIGHT|WHITE CIRCLE WITH TWO DOTS"),
    (0x2688, "BLACK CIRCLE WITH WHITE DOT RIGHT|BLACK CIRCLE WITH TWO WHITE DOTS|MONOGRAM FOR YANG"),
    (0x268b, "MONOGRAM FOR YIN|DIGRAM FOR GREATER YANG|DIGRAM FOR LESSER YIN"),
    (0x268e, "DIGRAM FOR LESSER YANG|DIGRAM FOR GREATER YIN|WHITE FLAG|BLACK FLAG|HAMMER AND PICK"),
    (0x2693, "ANCHOR|CROSSED SWORDS|STAFF OF AESCULAPIUS|SCALES|ALEMBIC|FLOWER|GEAR"),
    (0x269a, "STAFF OF HERMES|ATOM SYMBOL|FLEUR-DE-LIS|OUTLINED WHITE STAR"),
    (0x269e, "THREE LINES CONVERGING RIGHT|THREE LINES CONVERGING LEFT|WARNING SIGN"),
    (0x26a1, "HIGH VOLTAGE SIGN|DOUBLED FEMALE SIGN|DOUBLED MALE SIGN"),
    (0x26a4, "INTERLOCKED FEMALE AND MALE SIGN|MALE AND FEMALE SIGN|MALE WITH STROKE SIGN"),
    (0x26a7, "MALE WITH STROKE AND MALE AND FEMALE SIGN|VERTICAL MALE WITH STROKE SIGN"),
    (0x26a9, "HORIZONTAL MALE WITH STROKE SIGN|MEDIUM WHITE CIRCLE|MEDIUM BLACK CIRCLE"),
    (0x26ac, "MEDIUM SMALL WHITE CIRCLE|MARRIAGE SYMBOL|DIVORCE SYMBOL"),
    (0x26af, "UNMARRIED PARTNERSHIP SYMBOL|COFFIN|FUNERAL URN|NEUTER|CERES|PALLAS|JUNO|VESTA"),
    (0x26b7, "CHIRON|BLACK MOON LILITH|SEXTILE|SEMISEXTILE|QUINCUNX|SESQUIQUADRATE|SOCCER BALL"),
    (0x26be, "BASEBALL|SQUARED KEY|WHITE DRAUGHTS MAN|WHITE DRAUGHTS KING|BLACK DRAUGHTS MAN"),
    (0x26c3, "BLACK DRAUGHTS KING|SNOWMAN WITHOUT SNOW|SUN BEHIND CLOUD|RAIN|BLACK SNOWMAN"),
    (0x26c8, "THUNDER CLOUD AND RAIN|TURNED WHITE SHOGI PIECE|TURNED BLACK SHOGI PIECE"),
    (0x26cb, "WHITE DIAMOND IN SQUARE|CROSSING LANES|DISABLED CAR|OPHIUCHUS|PICK|CAR SLIDING"),
    (0x26d1, "HELMET WITH WHITE CROSS|CIRCLED CROSSING LANES|CHAINS|NO ENTRY"),
    (0x26d5, "ALTERNATE ONE-WAY LEFT WAY TRAFFIC|BLACK TWO-WAY LEFT WAY TRAFFIC"),
    (0x26d7, "WHITE TWO-WAY LEFT WAY TRAFFIC|BLACK LEFT LANE MERGE|WHITE LEFT LANE MERGE"),
    (0x26da, "DRIVE SLOW SIGN|HEAVY WHITE DOWN-POINTING TRIANGLE|LEFT CLOSED ENTRY|SQUARED SALTIRE"),
    (0x26de, "FALLING DIAGONAL IN WHITE CIRCLE IN BLACK SQUARE|BLACK TRUCK|RESTRICTED LEFT ENTRY-1"),
    (0x26e1, "RESTRICTED LEFT ENTRY-2|ASTRONOMICAL SYMBOL FOR URANUS"),
    (0x26e3, "HEAVY CIRCLE WITH STROKE AND TWO DOTS ABOVE|PENTAGRAM"),
    (0x26e5, "RIGHT-HANDED INTERLACED PENTAGRAM|LEFT-HANDED INTERLACED PENTAGRAM"),
    (0x26e7, "INVERTED PENTAGRAM|BLACK CROSS ON SHIELD|SHINTO SHRINE|CHURCH|CASTLE|HISTORIC SITE"),
    (0x26ed, "GEAR WITHOUT HUB|GEAR WITH HANDLES|MAP SYMBOL FOR LIGHTHOUSE|MOUNTAIN"),
    (0x26f1, "UMBRELLA ON GROUND|FOUNTAIN|FLAG IN HOLE|FERRY|SAILBOAT|SQUARE FOUR CORNERS|SKIER"),
    (0x26f8, "ICE SKATE|PERSON WITH BALL|TENT|JAPANESE BANK SYMBOL|HEADSTONE GRAVEYARD SYMBOL"),
    (0x26fd, "FUEL PUMP|CUP ON BLACK SQUARE|WHITE FLAG WITH HORIZONTAL MIDDLE BLACK STRIPE"),
    (0x1f600, "GRINNING FACE|GRINNING FACE WITH SMILING EYES|FACE WITH TEARS OF JOY"),
    (0x1f603, "SMILING FACE WITH OPEN MOUTH|SMILING FACE WITH OPEN MOUTH AND SMILING EYES"),
    (0x1f605, "SMILING FACE WITH OPEN MOUTH AND COLD SWEAT"),
    (0x1f606, "SMILING FACE WITH OPEN MOUTH AND TIGHTLY-CLOSED EYES|SMILING FACE WITH HALO"),
    (0x1f608, "SMILING FACE WITH HORNS|WINKING FACE|SMILING FACE WITH SMILING EYES"),
    (0x1f60b, "FACE SAVOURING DELICIOUS FOOD|RELIEVED FACE|SMILING FACE WITH HEART-SHAPED EYES"),
    (0x1f60e, "SMILING FACE WITH SUNGLASSES|SMIRKING FACE|NEUTRAL FACE|EXPRESSIONLESS FACE"),
    (0x1f612, "UNAMUSED FACE|FACE WITH COLD SWEAT|PENSIVE FACE|CONFUSED FACE|CONFOUNDED FACE"),
    (0x1f617, "KISSING FACE|FACE THROWING A KISS|KISSING FACE WITH SMILING EYES"),
    (0x1f61a, "KISSING FACE WITH CLOSED EYES|FACE WITH STUCK-OUT TONGUE"),
    (0x1f61c, "FACE WITH STUCK-OUT TONGUE AND WINKING EYE"),
    (0x1f61d, "FACE WITH STUCK-OUT TONGUE AND TIGHTLY-CLOSED EYES|DISAPPOINTED FACE|WORRIED FACE"),
    (0x1f620, "ANGRY FACE|POUTING FACE|CRYING FACE|PERSEVERING FACE|FACE WITH LOOK OF TRIUMPH"),
    (0x1f625, "DISAPPOINTED BUT RELIEVED FACE|FROWNING FACE WITH OPEN MOUTH|ANGUISHED FACE"),
    (0x1f628, "FEARFUL FACE|WEARY FACE|SLEEPY FACE|TIRED FACE|GRIMACING FACE|LOUDLY CRYING FACE"),
    (0x1f62e, "FACE WITH OPEN MOUTH|HUSHED FACE|FACE WITH OPEN MOUTH AND COLD SWEAT"),
    (0x1f631, "FACE SCREAMING IN FEAR|ASTONISHED FACE|FLUSHED FACE|SLEEPING FACE|DIZZY FACE"),
    (0x1f636, "FACE WITHOUT MOUTH|FACE WITH MEDICAL MASK|GRINNING CAT FACE WITH SMILING EYES"),
    (0x1f639, "CAT FACE WITH TEARS OF JOY|SMILING CAT FACE WITH OPEN MOUTH"),
    (0x1f63b, "SMILING CAT FACE WITH HEART-SHAPED EYES|CAT FACE WITH WRY SMILE"),
    (0x1f63d, "KISSING CAT FACE WITH CLOSED EYES|POUTING CAT FACE|CRYING CAT FACE|WEARY CAT FACE"),
    (0x1f641, "SLIGHTLY FROWNING FACE|SLIGHTLY SMILING FACE|UPSIDE-DOWN FACE|FACE WITH ROLLING EYES"),
    (0x1f645, "FACE WITH NO GOOD GESTURE|FACE WITH OK GESTURE|PERSON BOWING DEEPLY"),
    (0x1f648, "SEE-NO-EVIL MONKEY|HEAR-NO-EVIL MONKEY|SPEAK-NO-EVIL MONKEY"),
    (0x1f64b, "HAPPY PERSON RAISING ONE HAND|PERSON RAISING BOTH HANDS IN CELEBRATION"),
    (0x1f64d, "PERSON FROWNING|PERSON WITH POUTING FACE|PERSON WITH FOLDED HANDS"),
    (0xfffc, "OBJECT REPLACEMENT CHARACTER|REPLACEMENT CHARACTER")
  ]

/-- The position of a name among names separated by bars. The second text is what is
    left to compare of the name, `none` after a difference. -/
def namePosition? (name : List Char) : Nat → Option (List Char) → List Char → Option Nat
  | position, some [], [] => some position
  | _, _, [] => none
  | position, rest, '|' :: others =>
    if rest = some [] then some position else namePosition? name (position + 1) (some name) others
  | position, some (expected :: rest), character :: others =>
    if expected = character then namePosition? name position (some rest) others
    else namePosition? name position none others
  | position, _, _ :: others => namePosition? name position none others

/-- The code point of the character with the given name. -/
def namedCharacter? (name : List Char) : Option Nat :=
  let capital := name.map Char.toUpper
  if capital.isEmpty then none
  else
    characterNameRows.findSome? fun (first, names) =>
      (namePosition? capital 0 (some capital) names.toList).map (first + ·)

end LintReview.Text
