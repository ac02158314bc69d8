/-! Names of syllables and presentation forms between U+3000 and U+10000.

Rows of characters are given by the first code point; a name that starts with a number keeps so
many words of the name before it.
-/

set_option autoImplicit false

namespace Forwarding.Text.CharacterName

/-- Ideographic punctuation, syllables, ligatures, wide and narrow forms. -/
def forms : List (Nat × List String) := [
  (0x3000, [
    "IDEOGRAPHIC SPACE|1COMMA|1FULL STOP|DITTO MARK|JAPANESE INDUSTRIAL STANDARD SYMBOL",
    "IDEOGRAPHIC ITERATION MARK|1CLOSING MARK|1NUMBER ZERO|LEFT ANGLE BRACKET|RIGHT ANGLE BRACKET",
    "LEFT DOUBLE ANGLE BRACKET|RIGHT DOUBLE ANGLE BRACKET|LEFT CORNER BRACKET",
    "RIGHT CORNER BRACKET|LEFT WHITE CORNER BRACKET|RIGHT WHITE CORNER BRACKET",
    "LEFT BLACK LENTICULAR BRACKET|RIGHT BLACK LENTICULAR BRACKET|POSTAL MARK|GETA MARK",
    "LEFT TORTOISE SHELL BRACKET|RIGHT TORTOISE SHELL BRACKET|LEFT WHITE LENTICULAR BRACKET",
    "RIGHT WHITE LENTICULAR BRACKET|LEFT WHITE TORTOISE SHELL BRACKET",
    "RIGHT WHITE TORTOISE SHELL BRACKET|LEFT WHITE SQUARE BRACKET|RIGHT WHITE SQUARE BRACKET",
    "WAVE DASH|REVERSED DOUBLE PRIME QUOTATION MARK|DOUBLE PRIME QUOTATION MARK",
    "LOW DOUBLE PRIME QUOTATION MARK|POSTAL MARK FACE|HANGZHOU NUMERAL ONE|2TWO|2THREE|2FOUR",
    "2FIVE|2SIX|2SEVEN|2EIGHT|2NINE|IDEOGRAPHIC LEVEL TONE MARK|1RISING TONE MARK",
    "1DEPARTING TONE MARK|1ENTERING TONE MARK|HANGUL SINGLE DOT TONE MARK|1DOUBLE DOT TONE MARK",
    "WAVY DASH|VERTICAL KANA REPEAT MARK|3WITH VOICED SOUND MARK|3MARK UPPER HALF",
    "3WITH VOICED SOUND MARK UPPER HALF|3MARK LOWER HALF|CIRCLED POSTAL MARK",
    "IDEOGRAPHIC TELEGRAPH LINE FEED SEPARATOR SYMBOL|HANGZHOU NUMERAL TEN|2TWENTY|2THIRTY",
    "VERTICAL IDEOGRAPHIC ITERATION MARK|MASU MARK|PART ALTERNATION MARK",
    "IDEOGRAPHIC VARIATION INDICATOR|1HALF FILL SPACE"]),
  (0x3041, [
    "HIRAGANA LETTER SMALL A|2A|2SMALL I|2I|2SMALL U|2U|2SMALL E|2E|2SMALL O|2O|2KA|2GA|2KI|2GI",
    "2KU|2GU|2KE|2GE|2KO|2GO|2SA|2ZA|2SI|2ZI|2SU|2ZU|2SE|2ZE|2SO|2ZO|2TA|2DA|2TI|2DI|2SMALL TU",
    "2TU|2DU|2TE|2DE|2TO|2DO|2NA|2NI|2NU|2NE|2NO|2HA|2BA|2PA|2HI|2BI|2PI|2HU|2BU|2PU|2HE|2BE|2PE",
    "2HO|2BO|2PO|2MA|2MI|2MU|2ME|2MO|2SMALL YA|2YA|2SMALL YU|2YU|2SMALL YO|2YO|2RA|2RI|2RU|2RE",
    "2RO|2SMALL WA|2WA|2WI|2WE|2WO|2N|2VU|2SMALL KA|3KE"]),
  (0x3099, [
    "COMBINING KATAKANA-HIRAGANA VOICED SOUND MARK|2SEMI-VOICED SOUND MARK",
    "KATAKANA-HIRAGANA VOICED SOUND MARK|1SEMI-VOICED SOUND MARK|HIRAGANA ITERATION MARK",
    "1VOICED ITERATION MARK|1DIGRAPH YORI|KATAKANA-HIRAGANA DOUBLE HYPHEN|KATAKANA LETTER SMALL A",
    "2A|2SMALL I|2I|2SMALL U|2U|2SMALL E|2E|2SMALL O|2O|2KA|2GA|2KI|2GI|2KU|2GU|2KE|2GE|2KO|2GO",
    "2SA|2ZA|2SI|2ZI|2SU|2ZU|2SE|2ZE|2SO|2ZO|2TA|2DA|2TI|2DI|2SMALL TU|2TU|2DU|2TE|2DE|2TO|2DO",
    "2NA|2NI|2NU|2NE|2NO|2HA|2BA|2PA|2HI|2BI|2PI|2HU|2BU|2PU|2HE|2BE|2PE|2HO|2BO|2PO|2MA|2MI|2MU",
    "2ME|2MO|2SMALL YA|2YA|2SMALL YU|2YU|2SMALL YO|2YO|2RA|2RI|2RU|2RE|2RO|2SMALL WA|2WA|2WI|2WE",
    "2WO|2N|2VU|2SMALL KA|3KE|2VA|2VI|2VE|2VO|1MIDDLE DOT|KATAKANA-HIRAGANA PROLONGED SOUND MARK",
    "KATAKANA ITERATION MARK|1VOICED ITERATION MARK|1DIGRAPH KOTO"]),
  (0x3105, [
    "BOPOMOFO LETTER B|2P|2M|2F|2D|2T|2N|2L|2G|2K|2H|2J|2Q|2X|2ZH|2CH|2SH|2R|2Z|2C|2S|2A|2O|2E",
    "2EH|2AI|2EI|2AU|2OU|2AN|2EN|2ANG|2ENG|2ER|2I|2U|2IU|2V|2NG|2GN|2IH|2O WITH DOT ABOVE|2NN"]),
  (0x3131, [
    "HANGUL LETTER KIYEOK|2SSANGKIYEOK|2KIYEOK-SIOS|2NIEUN|2NIEUN-CIEUC|2NIEUN-HIEUH|2TIKEUT",
    "2SSANGTIKEUT|2RIEUL|2RIEUL-KIYEOK|2RIEUL-MIEUM|2RIEUL-PIEUP|2RIEUL-SIOS|2RIEUL-THIEUTH",
    "2RIEUL-PHIEUPH|2RIEUL-HIEUH|2MIEUM|2PIEUP|2SSANGPIEUP|2PIEUP-SIOS|2SIOS|2SSANGSIOS|2IEUNG",
    "2CIEUC|2SSANGCIEUC|2CHIEUCH|2KHIEUKH|2THIEUTH|2PHIEUPH|2HIEUH|2A|2AE|2YA|2YAE|2EO|2E|2YEO",
    "2YE|2O|2WA|2WAE|2OE|2YO|2U|2WEO|2WE|2WI|2YU|2EU|2YI|2I|1FILLER|1LETTER SSANGNIEUN",
    "2NIEUN-TIKEUT|2NIEUN-SIOS|2NIEUN-PANSIOS|2RIEUL-KIYEOK-SIOS|2RIEUL-TIKEUT|2RIEUL-PIEUP-SIOS",
    "2RIEUL-PANSIOS|2RIEUL-YEORINHIEUH|2MIEUM-PIEUP|2MIEUM-SIOS|2MIEUM-PANSIOS|2KAPYEOUNMIEUM",
    "2PIEUP-KIYEOK|2PIEUP-TIKEUT|2PIEUP-SIOS-KIYEOK|2PIEUP-SIOS-TIKEUT|2PIEUP-CIEUC",
    "2PIEUP-THIEUTH|2KAPYEOUNPIEUP|2KAPYEOUNSSANGPIEUP|2SIOS-KIYEOK|2SIOS-NIEUN|2SIOS-TIKEUT",
    "2SIOS-PIEUP|2SIOS-CIEUC|2PANSIOS|2SSANGIEUNG|2YESIEUNG|2YESIEUNG-SIOS|2YESIEUNG-PANSIOS",
    "2KAPYEOUNPHIEUPH|2SSANGHIEUH|2YEORINHIEUH|2YO-YA|2YO-YAE|2YO-I|2YU-YEO|2YU-YE|2YU-I|2ARAEA",
    "2ARAEAE"]),
  (0x3190, [
    "IDEOGRAPHIC ANNOTATION LINKING MARK|2REVERSE MARK|2ONE MARK|2TWO MARK|2THREE MARK|2FOUR MARK",
    "2TOP MARK|2MIDDLE MARK|2BOTTOM MARK|2FIRST MARK|2SECOND MARK|2THIRD MARK|2FOURTH MARK",
    "2HEAVEN MARK|2EARTH MARK|2MAN MARK|BOPOMOFO LETTER BU|2ZI|2JI|2GU|2EE|2ENN|2OO|2ONN|2IR|2ANN",
    "2INN|2UNN|2IM|2NGG|2AINN|2AUNN|2AM|2OM|2ONG|2INNN|1FINAL LETTER P|3T|3K|3H|1LETTER GH|2LH",
    "2ZY|1FINAL LETTER G|1LETTER GW|2KW|2OE|2AH|CJK STROKE T|2WG|2XG|2BXG|2SW|2HZZ|2HZG|2HP|2HZWG",
    "2SZWG|2HZT|2HZZP|2HPWG|2HZW|2HZZZ|2N|2H|2S|2P|2SP|2D|2HZ|2HG|2SZ|2SWZ|2ST|2SG|2PD|2PZ|2TN",
    "2SZZ|2SWG|2HXWG|2HZZZG|2PG|2Q"]),
  (0x31F0, [
    "KATAKANA LETTER SMALL KU|3SI|3SU|3TO|3NU|3HA|3HI|3HU|3HE|3HO|3MU|3RA|3RI|3RU|3RE|3RO",
    "PARENTHESIZED HANGUL KIYEOK|2NIEUN|2TIKEUT|2RIEUL|2MIEUM|2PIEUP|2SIOS|2IEUNG|2CIEUC|2CHIEUCH",
    "2KHIEUKH|2THIEUTH|2PHIEUPH|2HIEUH|2KIYEOK A|2NIEUN A|2TIKEUT A|2RIEUL A|2MIEUM A|2PIEUP A",
    "2SIOS A|2IEUNG A|2CIEUC A|2CHIEUCH A|2KHIEUKH A|2THIEUTH A|2PHIEUPH A|2HIEUH A|2CIEUC U",
    "1KOREAN CHARACTER OJEON|3O HU"]),
  (0x3220, [
    "PARENTHESIZED IDEOGRAPH ONE|2TWO|2THREE|2FOUR|2FIVE|2SIX|2SEVEN|2EIGHT|2NINE|2TEN|2MOON",
    "2FIRE|2WATER|2WOOD|2METAL|2EARTH|2SUN|2STOCK|2HAVE|2SOCIETY|2NAME|2SPECIAL|2FINANCIAL",
    "2CONGRATULATION|2LABOR|2REPRESENT|2CALL|2STUDY|2SUPERVISE|2ENTERPRISE|2RESOURCE|2ALLIANCE",
    "2FESTIVAL|2REST|2SELF|2REACH|CIRCLED IDEOGRAPH QUESTION|2KINDERGARTEN|2SCHOOL|2KOTO",
    "1NUMBER TEN ON BLACK SQUARE|2TWENTY ON BLACK SQUARE|2THIRTY ON BLACK SQUARE",
    "2FORTY ON BLACK SQUARE|2FIFTY ON BLACK SQUARE|2SIXTY ON BLACK SQUARE",
    "2SEVENTY ON BLACK SQUARE|2EIGHTY ON BLACK SQUARE|PARTNERSHIP SIGN|CIRCLED NUMBER TWENTY ONE",
    "3TWO|3THREE|3FOUR|3FIVE|3SIX|3SEVEN|3EIGHT|3NINE|2THIRTY|3ONE|3TWO|3THREE|3FOUR|3FIVE",
    "1HANGUL KIYEOK|2NIEUN|2TIKEUT|2RIEUL|2MIEUM|2PIEUP|2SIOS|2IEUNG|2CIEUC|2CHIEUCH|2KHIEUKH",
    "2THIEUTH|2PHIEUPH|2HIEUH|2KIYEOK A|2NIEUN A|2TIKEUT A|2RIEUL A|2MIEUM A|2PIEUP A|2SIOS A",
    "2IEUNG A|2CIEUC A|2CHIEUCH A|2KHIEUKH A|2THIEUTH A|2PHIEUPH A|2HIEUH A",
    "1KOREAN CHARACTER CHAMKO|3JUEUI|1HANGUL IEUNG U|KOREAN STANDARD SYMBOL|CIRCLED IDEOGRAPH ONE",
    "2TWO|2THREE|2FOUR|2FIVE|2SIX|2SEVEN|2EIGHT|2NINE|2TEN|2MOON|2FIRE|2WATER|2WOOD|2METAL|2EARTH",
    "2SUN|2STOCK|2HAVE|2SOCIETY|2NAME|2SPECIAL|2FINANCIAL|2CONGRATULATION|2LABOR|2SECRET|2MALE",
    "2FEMALE|2SUITABLE|2EXCELLENT|2PRINT|2ATTENTION|2ITEM|2REST|2COPY|2CORRECT|2HIGH|2CENTRE|2LOW",
    "2LEFT|2RIGHT|2MEDICINE|2RELIGION|2STUDY|2SUPERVISE|2ENTERPRISE|2RESOURCE|2ALLIANCE|2NIGHT",
    "1NUMBER THIRTY SIX|3SEVEN|3EIGHT|3NINE|2FORTY|3ONE|3TWO|3THREE|3FOUR|3FIVE|3SIX|3SEVEN",
    "3EIGHT|3NINE|2FIFTY|IDEOGRAPHIC TELEGRAPH SYMBOL FOR JANUARY|4FEBRUARY|4MARCH|4APRIL|4MAY",
    "4JUNE|4JULY|4AUGUST|4SEPTEMBER|4OCTOBER|4NOVEMBER|4DECEMBER|SQUARE HG|1ERG|1EV",
    "LIMITED LIABILITY SIGN|CIRCLED KATAKANA A|2I|2U|2E|2O|2KA|2KI|2KU|2KE|2KO|2SA|2SI|2SU|2SE",
    "2SO|2TA|2TI|2TU|2TE|2TO|2NA|2NI|2NU|2NE|2NO|2HA|2HI|2HU|2HE|2HO|2MA|2MI|2MU|2ME|2MO|2YA|2YU",
    "2YO|2RA|2RI|2RU|2RE|2RO|2WA|2WI|2WE|2WO|SQUARE ERA NAME REIWA|1APAATO|1ARUHUA|1ANPEA|1AARU",
    "1ININGU|1INTI|1UON|1ESUKUUDO|1EEKAA|1ONSU|1OOMU|1KAIRI|1KARATTO|1KARORII|1GARON|1GANMA|1GIGA",
    "1GINII|1KYURII|1GIRUDAA|1KIRO|1KIROGURAMU|1KIROMEETORU|1KIROWATTO|1GURAMU|1GURAMUTON",
    "1KURUZEIRO|1KUROONE|1KEESU|1KORUNA|1KOOPO|1SAIKURU|1SANTIIMU|1SIRINGU|1SENTI|1SENTO|1DAASU",
    "1DESI|1DORU|1TON|1NANO|1NOTTO|1HAITU|1PAASENTO|1PAATU|1BAARERU|1PIASUTORU|1PIKURU|1PIKO",
    "1BIRU|1HUARADDO|1HUIITO|1BUSSYERU|1HURAN|1HEKUTAARU|1PESO|1PENIHI|1HERUTU|1PENSU|1PEEZI",
    "1BEETA|1POINTO|1BORUTO|1HON|1PONDO|1HOORU|1HOON|1MAIKURO|1MAIRU|1MAHHA|1MARUKU|1MANSYON",
    "1MIKURON|1MIRI|1MIRIBAARU|1MEGA|1MEGATON|1MEETORU|1YAADO|1YAARU|1YUAN|1RITTORU|1RIRA|1RUPII",
    "1RUUBURU|1REMU|1RENTOGEN|1WATTO|IDEOGRAPHIC TELEGRAPH SYMBOL FOR HOUR ZERO|5ONE|5TWO|5THREE",
    "5FOUR|5FIVE|5SIX|5SEVEN|5EIGHT|5NINE|5TEN|5ELEVEN|5TWELVE|5THIRTEEN|5FOURTEEN|5FIFTEEN",
    "5SIXTEEN|5SEVENTEEN|5EIGHTEEN|5NINETEEN|5TWENTY|5TWENTY-ONE|5TWENTY-TWO|5TWENTY-THREE",
    "5TWENTY-FOUR|SQUARE HPA|1DA|1AU|1BAR|1OV|1PC|1DM|2SQUARED|2CUBED|1IU|1ERA NAME HEISEI",
    "3SYOUWA|3TAISYOU|3MEIZI|1CORPORATION|1PA AMPS|1NA|1MU A|1MA|1KA|1KB|1MB|1GB|1CAL|1KCAL|1PF",
    "1NF|1MU F|2G|1MG|1KG|1HZ|1KHZ|1MHZ|1GHZ|1THZ|1MU L|1ML|1DL|1KL|1FM|1NM|1MU M|1MM|1CM|1KM",
    "1MM SQUARED|1CM SQUARED|1M SQUARED|1KM SQUARED|1MM CUBED|1CM CUBED|1M CUBED|1KM CUBED",
    "1M OVER S|4SQUARED|1PA|1KPA|1MPA|1GPA|1RAD|2OVER S|4SQUARED|1PS|1NS|1MU S|1MS|1PV|1NV|1MU V",
    "1MV|1KV|1MV MEGA|1PW|1NW|1MU W|1MW|1KW|1MW MEGA|1K OHM|1M OHM|1AM|1BQ|1CC|1CD|1C OVER KG|1CO",
    "1DB|1GY|1HA|1HP|1IN|1KK|1KM CAPITAL|1KT|1LM|1LN|1LOG|1LX|1MB SMALL|1MIL|1MOL|1PH|1PM|1PPM",
    "1PR|1SR|1SV|1WB|1V OVER M|1A OVER M|IDEOGRAPHIC TELEGRAPH SYMBOL FOR DAY ONE|5TWO|5THREE",
    "5FOUR|5FIVE|5SIX|5SEVEN|5EIGHT|5NINE|5TEN|5ELEVEN|5TWELVE|5THIRTEEN|5FOURTEEN|5FIFTEEN",
    "5SIXTEEN|5SEVENTEEN|5EIGHTEEN|5NINETEEN|5TWENTY|5TWENTY-ONE|5TWENTY-TWO|5TWENTY-THREE",
    "5TWENTY-FOUR|5TWENTY-FIVE|5TWENTY-SIX|5TWENTY-SEVEN|5TWENTY-EIGHT|5TWENTY-NINE|5THIRTY",
    "5THIRTY-ONE|SQUARE GAL"]),
  (0x4DC0, [
    "HEXAGRAM FOR THE CREATIVE HEAVEN|3RECEPTIVE EARTH|2DIFFICULTY AT THE BEGINNING",
    "2YOUTHFUL FOLLY|2WAITING|2CONFLICT|2THE ARMY|2HOLDING TOGETHER|2SMALL TAMING|2TREADING",
    "2PEACE|2STANDSTILL|2FELLOWSHIP|2GREAT POSSESSION|2MODESTY|2ENTHUSIASM|2FOLLOWING",
    "2WORK ON THE DECAYED|2APPROACH|2CONTEMPLATION|2BITING THROUGH|2GRACE|2SPLITTING APART",
    "2RETURN|2INNOCENCE|2GREAT TAMING|2MOUTH CORNERS|2GREAT PREPONDERANCE|2THE ABYSMAL WATER",
    "3CLINGING FIRE|2INFLUENCE|2DURATION|2RETREAT|2GREAT POWER|2PROGRESS|2DARKENING OF THE LIGHT",
    "2THE FAMILY|2OPPOSITION|2OBSTRUCTION|2DELIVERANCE|2DECREASE|2INCREASE|2BREAKTHROUGH",
    "2COMING TO MEET|2GATHERING TOGETHER|2PUSHING UPWARD|2OPPRESSION|2THE WELL|2REVOLUTION",
    "2THE CAULDRON|3AROUSING THUNDER|3KEEPING STILL MOUNTAIN|2DEVELOPMENT|2THE MARRYING MAIDEN",
    "2ABUNDANCE|2THE WANDERER|3GENTLE WIND|3JOYOUS LAKE|2DISPERSION|2LIMITATION|2INNER TRUTH",
    "2SMALL PREPONDERANCE|2AFTER COMPLETION|2BEFORE COMPLETION"]),
  (0xA000, [
    "YI SYLLABLE IT|2IX|2I|2IP|2IET|2IEX|2IE|2IEP|2AT|2AX|2A|2AP|2UOX|2UO|2UOP|2OT|2OX|2O|2OP|2EX",
    "2E|2WU|2BIT|2BIX|2BI|2BIP|2BIET|2BIEX|2BIE|2BIEP|2BAT|2BAX|2BA|2BAP|2BUOX|2BUO|2BUOP|2BOT",
    "2BOX|2BO|2BOP|2BEX|2BE|2BEP|2BUT|2BUX|2BU|2BUP|2BURX|2BUR|2BYT|2BYX|2BY|2BYP|2BYRX|2BYR|2PIT",
    "2PIX|2PI|2PIP|2PIEX|2PIE|2PIEP|2PAT|2PAX|2PA|2PAP|2PUOX|2PUO|2PUOP|2POT|2POX|2PO|2POP|2PUT",
    "2PUX|2PU|2PUP|2PURX|2PUR|2PYT|2PYX|2PY|2PYP|2PYRX|2PYR|2BBIT|2BBIX|2BBI|2BBIP|2BBIET|2BBIEX",
    "2BBIE|2BBIEP|2BBAT|2BBAX|2BBA|2BBAP|2BBUOX|2BBUO|2BBUOP|2BBOT|2BBOX|2BBO|2BBOP|2BBEX|2BBE",
    "2BBEP|2BBUT|2BBUX|2BBU|2BBUP|2BBURX|2BBUR|2BBYT|2BBYX|2BBY|2BBYP|2NBIT|2NBIX|2NBI|2NBIP",
    "2NBIEX|2NBIE|2NBIEP|2NBAT|2NBAX|2NBA|2NBAP|2NBOT|2NBOX|2NBO|2NBOP|2NBUT|2NBUX|2NBU|2NBUP",
    "2NBURX|2NBUR|2NBYT|2NBYX|2NBY|2NBYP|2NBYRX|2NBYR|2HMIT|2HMIX|2HMI|2HMIP|2HMIEX|2HMIE|2HMIEP",
    "2HMAT|2HMAX|2HMA|2HMAP|2HMUOX|2HMUO|2HMUOP|2HMOT|2HMOX|2HMO|2HMOP|2HMUT|2HMUX|2HMU|2HMUP",
    "2HMURX|2HMUR|2HMYX|2HMY|2HMYP|2HMYRX|2HMYR|2MIT|2MIX|2MI|2MIP|2MIEX|2MIE|2MIEP|2MAT|2MAX|2MA",
    "2MAP|2MUOT|2MUOX|2MUO|2MUOP|2MOT|2MOX|2MO|2MOP|2MEX|2ME|2MUT|2MUX|2MU|2MUP|2MURX|2MUR|2MYT",
    "2MYX|2MY|2MYP|2FIT|2FIX|2FI|2FIP|2FAT|2FAX|2FA|2FAP|2FOX|2FO|2FOP|2FUT|2FUX|2FU|2FUP|2FURX",
    "2FUR|2FYT|2FYX|2FY|2FYP|2VIT|2VIX|2VI|2VIP|2VIET|2VIEX|2VIE|2VIEP|2VAT|2VAX|2VA|2VAP|2VOT",
    "2VOX|2VO|2VOP|2VEX|2VEP|2VUT|2VUX|2VU|2VUP|2VURX|2VUR|2VYT|2VYX|2VY|2VYP|2VYRX|2VYR|2DIT",
    "2DIX|2DI|2DIP|2DIEX|2DIE|2DIEP|2DAT|2DAX|2DA|2DAP|2DUOX|2DUO|2DOT|2DOX|2DO|2DOP|2DEX|2DE",
    "2DEP|2DUT|2DUX|2DU|2DUP|2DURX|2DUR|2TIT|2TIX|2TI|2TIP|2TIEX|2TIE|2TIEP|2TAT|2TAX|2TA|2TAP",
    "2TUOT|2TUOX|2TUO|2TUOP|2TOT|2TOX|2TO|2TOP|2TEX|2TE|2TEP|2TUT|2TUX|2TU|2TUP|2TURX|2TUR|2DDIT",
    "2DDIX|2DDI|2DDIP|2DDIEX|2DDIE|2DDIEP|2DDAT|2DDAX|2DDA|2DDAP|2DDUOX|2DDUO|2DDUOP|2DDOT|2DDOX",
    "2DDO|2DDOP|2DDEX|2DDE|2DDEP|2DDUT|2DDUX|2DDU|2DDUP|2DDURX|2DDUR|2NDIT|2NDIX|2NDI|2NDIP",
    "2NDIEX|2NDIE|2NDAT|2NDAX|2NDA|2NDAP|2NDOT|2NDOX|2NDO|2NDOP|2NDEX|2NDE|2NDEP|2NDUT|2NDUX|2NDU",
    "2NDUP|2NDURX|2NDUR|2HNIT|2HNIX|2HNI|2HNIP|2HNIET|2HNIEX|2HNIE|2HNIEP|2HNAT|2HNAX|2HNA|2HNAP",
    "2HNUOX|2HNUO|2HNOT|2HNOX|2HNOP|2HNEX|2HNE|2HNEP|2HNUT|2NIT|2NIX|2NI|2NIP|2NIEX|2NIE|2NIEP",
    "2NAX|2NA|2NAP|2NUOX|2NUO|2NUOP|2NOT|2NOX|2NO|2NOP|2NEX|2NE|2NEP|2NUT|2NUX|2NU|2NUP|2NURX",
    "2NUR|2HLIT|2HLIX|2HLI|2HLIP|2HLIEX|2HLIE|2HLIEP|2HLAT|2HLAX|2HLA|2HLAP|2HLUOX|2HLUO|2HLUOP",
    "2HLOX|2HLO|2HLOP|2HLEX|2HLE|2HLEP|2HLUT|2HLUX|2HLU|2HLUP|2HLURX|2HLUR|2HLYT|2HLYX|2HLY|2HLYP",
    "2HLYRX|2HLYR|2LIT|2LIX|2LI|2LIP|2LIET|2LIEX|2LIE|2LIEP|2LAT|2LAX|2LA|2LAP|2LUOT|2LUOX|2LUO",
    "2LUOP|2LOT|2LOX|2LO|2LOP|2LEX|2LE|2LEP|2LUT|2LUX|2LU|2LUP|2LURX|2LUR|2LYT|2LYX|2LY|2LYP",
    "2LYRX|2LYR|2GIT|2GIX|2GI|2GIP|2GIET|2GIEX|2GIE|2GIEP|2GAT|2GAX|2GA|2GAP|2GUOT|2GUOX|2GUO",
    "2GUOP|2GOT|2GOX|2GO|2GOP|2GET|2GEX|2GE|2GEP|2GUT|2GUX|2GU|2GUP|2GURX|2GUR|2KIT|2KIX|2KI|2KIP",
    "2KIEX|2KIE|2KIEP|2KAT|2KAX|2KA|2KAP|2KUOX|2KUO|2KUOP|2KOT|2KOX|2KO|2KOP|2KET|2KEX|2KE|2KEP",
    "2KUT|2KUX|2KU|2KUP|2KURX|2KUR|2GGIT|2GGIX|2GGI|2GGIEX|2GGIE|2GGIEP|2GGAT|2GGAX|2GGA|2GGAP",
    "2GGUOT|2GGUOX|2GGUO|2GGUOP|2GGOT|2GGOX|2GGO|2GGOP|2GGET|2GGEX|2GGE|2GGEP|2GGUT|2GGUX|2GGU",
    "2GGUP|2GGURX|2GGUR|2MGIEX|2MGIE|2MGAT|2MGAX|2MGA|2MGAP|2MGUOX|2MGUO|2MGUOP|2MGOT|2MGOX|2MGO",
    "2MGOP|2MGEX|2MGE|2MGEP|2MGUT|2MGUX|2MGU|2MGUP|2MGURX|2MGUR|2HXIT|2HXIX|2HXI|2HXIP|2HXIET",
    "2HXIEX|2HXIE|2HXIEP|2HXAT|2HXAX|2HXA|2HXAP|2HXUOT|2HXUOX|2HXUO|2HXUOP|2HXOT|2HXOX|2HXO|2HXOP",
    "2HXEX|2HXE|2HXEP|2NGIEX|2NGIE|2NGIEP|2NGAT|2NGAX|2NGA|2NGAP|2NGUOT|2NGUOX|2NGUO|2NGOT|2NGOX",
    "2NGO|2NGOP|2NGEX|2NGE|2NGEP|2HIT|2HIEX|2HIE|2HAT|2HAX|2HA|2HAP|2HUOT|2HUOX|2HUO|2HUOP|2HOT",
    "2HOX|2HO|2HOP|2HEX|2HE|2HEP|2WAT|2WAX|2WA|2WAP|2WUOX|2WUO|2WUOP|2WOX|2WO|2WOP|2WEX|2WE|2WEP",
    "2ZIT|2ZIX|2ZI|2ZIP|2ZIEX|2ZIE|2ZIEP|2ZAT|2ZAX|2ZA|2ZAP|2ZUOX|2ZUO|2ZUOP|2ZOT|2ZOX|2ZO|2ZOP",
    "2ZEX|2ZE|2ZEP|2ZUT|2ZUX|2ZU|2ZUP|2ZURX|2ZUR|2ZYT|2ZYX|2ZY|2ZYP|2ZYRX|2ZYR|2CIT|2CIX|2CI|2CIP",
    "2CIET|2CIEX|2CIE|2CIEP|2CAT|2CAX|2CA|2CAP|2CUOX|2CUO|2CUOP|2COT|2COX|2CO|2COP|2CEX|2CE|2CEP",
    "2CUT|2CUX|2CU|2CUP|2CURX|2CUR|2CYT|2CYX|2CY|2CYP|2CYRX|2CYR|2ZZIT|2ZZIX|2ZZI|2ZZIP|2ZZIET",
    "2ZZIEX|2ZZIE|2ZZIEP|2ZZAT|2ZZAX|2ZZA|2ZZAP|2ZZOX|2ZZO|2ZZOP|2ZZEX|2ZZE|2ZZEP|2ZZUX|2ZZU",
    "2ZZUP|2ZZURX|2ZZUR|2ZZYT|2ZZYX|2ZZY|2ZZYP|2ZZYRX|2ZZYR|2NZIT|2NZIX|2NZI|2NZIP|2NZIEX|2NZIE",
    "2NZIEP|2NZAT|2NZAX|2NZA|2NZAP|2NZUOX|2NZUO|2NZOX|2NZOP|2NZEX|2NZE|2NZUX|2NZU|2NZUP|2NZURX",
    "2NZUR|2NZYT|2NZYX|2NZY|2NZYP|2NZYRX|2NZYR|2SIT|2SIX|2SI|2SIP|2SIEX|2SIE|2SIEP|2SAT|2SAX|2SA",
    "2SAP|2SUOX|2SUO|2SUOP|2SOT|2SOX|2SO|2SOP|2SEX|2SE|2SEP|2SUT|2SUX|2SU|2SUP|2SURX|2SUR|2SYT",
    "2SYX|2SY|2SYP|2SYRX|2SYR|2SSIT|2SSIX|2SSI|2SSIP|2SSIEX|2SSIE|2SSIEP|2SSAT|2SSAX|2SSA|2SSAP",
    "2SSOT|2SSOX|2SSO|2SSOP|2SSEX|2SSE|2SSEP|2SSUT|2SSUX|2SSU|2SSUP|2SSYT|2SSYX|2SSY|2SSYP|2SSYRX",
    "2SSYR|2ZHAT|2ZHAX|2ZHA|2ZHAP|2ZHUOX|2ZHUO|2ZHUOP|2ZHOT|2ZHOX|2ZHO|2ZHOP|2ZHET|2ZHEX|2ZHE",
    "2ZHEP|2ZHUT|2ZHUX|2ZHU|2ZHUP|2ZHURX|2ZHUR|2ZHYT|2ZHYX|2ZHY|2ZHYP|2ZHYRX|2ZHYR|2CHAT|2CHAX",
    "2CHA|2CHAP|2CHUOT|2CHUOX|2CHUO|2CHUOP|2CHOT|2CHOX|2CHO|2CHOP|2CHET|2CHEX|2CHE|2CHEP|2CHUX",
    "2CHU|2CHUP|2CHURX|2CHUR|2CHYT|2CHYX|2CHY|2CHYP|2CHYRX|2CHYR|2RRAX|2RRA|2RRUOX|2RRUO|2RROT",
    "2RROX|2RRO|2RROP|2RRET|2RREX|2RRE|2RREP|2RRUT|2RRUX|2RRU|2RRUP|2RRURX|2RRUR|2RRYT|2RRYX|2RRY",
    "2RRYP|2RRYRX|2RRYR|2NRAT|2NRAX|2NRA|2NRAP|2NROX|2NRO|2NROP|2NRET|2NREX|2NRE|2NREP|2NRUT",
    "2NRUX|2NRU|2NRUP|2NRURX|2NRUR|2NRYT|2NRYX|2NRY|2NRYP|2NRYRX|2NRYR|2SHAT|2SHAX|2SHA|2SHAP",
    "2SHUOX|2SHUO|2SHUOP|2SHOT|2SHOX|2SHO|2SHOP|2SHET|2SHEX|2SHE|2SHEP|2SHUT|2SHUX|2SHU|2SHUP",
    "2SHURX|2SHUR|2SHYT|2SHYX|2SHY|2SHYP|2SHYRX|2SHYR|2RAT|2RAX|2RA|2RAP|2RUOX|2RUO|2RUOP|2ROT",
    "2ROX|2RO|2ROP|2REX|2RE|2REP|2RUT|2RUX|2RU|2RUP|2RURX|2RUR|2RYT|2RYX|2RY|2RYP|2RYRX|2RYR|2JIT",
    "2JIX|2JI|2JIP|2JIET|2JIEX|2JIE|2JIEP|2JUOT|2JUOX|2JUO|2JUOP|2JOT|2JOX|2JO|2JOP|2JUT|2JUX|2JU",
    "2JUP|2JURX|2JUR|2JYT|2JYX|2JY|2JYP|2JYRX|2JYR|2QIT|2QIX|2QI|2QIP|2QIET|2QIEX|2QIE|2QIEP",
    "2QUOT|2QUOX|2QUO|2QUOP|2QOT|2QOX|2QO|2QOP|2QUT|2QUX|2QU|2QUP|2QURX|2QUR|2QYT|2QYX|2QY|2QYP",
    "2QYRX|2QYR|2JJIT|2JJIX|2JJI|2JJIP|2JJIET|2JJIEX|2JJIE|2JJIEP|2JJUOX|2JJUO|2JJUOP|2JJOT|2JJOX",
    "2JJO|2JJOP|2JJUT|2JJUX|2JJU|2JJUP|2JJURX|2JJUR|2JJYT|2JJYX|2JJY|2JJYP|2NJIT|2NJIX|2NJI|2NJIP",
    "2NJIET|2NJIEX|2NJIE|2NJIEP|2NJUOX|2NJUO|2NJOT|2NJOX|2NJO|2NJOP|2NJUX|2NJU|2NJUP|2NJURX|2NJUR",
    "2NJYT|2NJYX|2NJY|2NJYP|2NJYRX|2NJYR|2NYIT|2NYIX|2NYI|2NYIP|2NYIET|2NYIEX|2NYIE|2NYIEP|2NYUOX",
    "2NYUO|2NYUOP|2NYOT|2NYOX|2NYO|2NYOP|2NYUT|2NYUX|2NYU|2NYUP|2XIT|2XIX|2XI|2XIP|2XIET|2XIEX",
    "2XIE|2XIEP|2XUOX|2XUO|2XOT|2XOX|2XO|2XOP|2XYT|2XYX|2XY|2XYP|2XYRX|2XYR|2YIT|2YIX|2YI|2YIP",
    "2YIET|2YIEX|2YIE|2YIEP|2YUOT|2YUOX|2YUO|2YUOP|2YOT|2YOX|2YO|2YOP|2YUT|2YUX|2YU|2YUP|2YURX",
    "2YUR|2YYT|2YYX|2YY|2YYP|2YYRX|2YYR"]),
  (0xA490, [
    "YI RADICAL QOT|2LI|2KIT|2NYIP|2CYP|2SSI|2GGOP|2GEP|2MI|2HXIT|2LYR|2BBUT|2MOP|2YO|2PUT|2HXUO",
    "2TAT|2GA|2ZUP|2CYT|2DDUR|2BUR|2GGUO|2NYOP|2TU|2OP|2JJUT|2ZOT|2PYT|2HMO|2YIT|2VUR|2SHY|2VEP",
    "2ZA|2JO|2NZUP|2JJY|2GOT|2JJIE|2WO|2DU|2SHUR|2LIE|2CY|2CUOP|2CIP|2HXOP|2SHAT|2ZUR|2SHOP|2CHE",
    "2ZZIET|2NBIE|2KE"]),
  (0xA4D0, [
    "LISU LETTER BA|2PA|2PHA|2DA|2TA|2THA|2GA|2KA|2KHA|2JA|2CA|2CHA|2DZA|2TSA|2TSHA|2MA|2NA|2LA",
    "2SA|2ZHA|2ZA|2NGA|2HA|2XA|2HHA|2FA|2WA|2SHA|2YA|2GHA|2A|2AE|2E|2EU|2I|2O|2U|2UE|2UH|2OE",
    "2TONE MYA TI|3NA PO|3MYA CYA|4BO|4NA|4JEU|1PUNCTUATION COMMA|2FULL STOP|VAI SYLLABLE EE|2EEN",
    "2HEE|2WEE|2WEEN|2PEE|2BHEE|2BEE|2MBEE|2KPEE|2MGBEE|2GBEE|2FEE|2VEE|2TEE|2THEE|2DHEE|2DHHEE",
    "2LEE|2REE|2DEE|2NDEE|2SEE|2SHEE|2ZEE|2ZHEE|2CEE|2JEE|2NJEE|2YEE|2KEE|2NGGEE|2GEE|2MEE|2NEE",
    "2NYEE|2I|2IN|2HI|2HIN|2WI|2WIN|2PI|2BHI|2BI|2MBI|2KPI|2MGBI|2GBI|2FI|2VI|2TI|2THI|2DHI|2DHHI",
    "2LI|2RI|2DI|2NDI|2SI|2SHI|2ZI|2ZHI|2CI|2JI|2NJI|2YI|2KI|2NGGI|2GI|2MI|2NI|2NYI|2A|2AN|2NGAN",
    "2HA|2HAN|2WA|2WAN|2PA|2BHA|2BA|2MBA|2KPA|2KPAN|2MGBA|2GBA|2FA|2VA|2TA|2THA|2DHA|2DHHA|2LA",
    "2RA|2DA|2NDA|2SA|2SHA|2ZA|2ZHA|2CA|2JA|2NJA|2YA|2KA|2KAN|2NGGA|2GA|2MA|2NA|2NYA|2OO|2OON",
    "2HOO|2WOO|2WOON|2POO|2BHOO|2BOO|2MBOO|2KPOO|2MGBOO|2GBOO|2FOO|2VOO|2TOO|2THOO|2DHOO|2DHHOO",
    "2LOO|2ROO|2DOO|2NDOO|2SOO|2SHOO|2ZOO|2ZHOO|2COO|2JOO|2NJOO|2YOO|2KOO|2NGGOO|2GOO|2MOO|2NOO",
    "2NYOO|2U|2UN|2HU|2HUN|2WU|2WUN|2PU|2BHU|2BU|2MBU|2KPU|2MGBU|2GBU|2FU|2VU|2TU|2THU|2DHU|2DHHU",
    "2LU|2RU|2DU|2NDU|2SU|2SHU|2ZU|2ZHU|2CU|2JU|2NJU|2YU|2KU|2NGGU|2GU|2MU|2NU|2NYU|2O|2ON|2NGON",
    "2HO|2HON|2WO|2WON|2PO|2BHO|2BO|2MBO|2KPO|2MGBO|2GBO|2GBON|2FO|2VO|2TO|2THO|2DHO|2DHHO|2LO",
    "2RO|2DO|2NDO|2SO|2SHO|2ZO|2ZHO|2CO|2JO|2NJO|2YO|2KO|2NGGO|2GO|2MO|2NO|2NYO|2E|2EN|2NGEN|2HE",
    "2HEN|2WE|2WEN|2PE|2BHE|2BE|2MBE|2KPE|2KPEN|2MGBE|2GBE|2GBEN|2FE|2VE|2TE|2THE|2DHE|2DHHE|2LE",
    "2RE|2DE|2NDE|2SE|2SHE|2ZE|2ZHE|2CE|2JE|2NJE|2YE|2KE|2NGGE|2NGGEN|2GE|2GEN|2ME|2NE|2NYE|2NG",
    "2LENGTHENER|1COMMA|1FULL STOP|1QUESTION MARK|1SYLLABLE NDOLE FA|3KA|3SOO|1SYMBOL FEENG",
    "2KEENG|2TING|2NII|2BANG|2FAA|2TAA|2DANG|2DOONG|2KUNG|2TONG|2DO-O|2JONG|1DIGIT ZERO|2ONE|2TWO",
    "2THREE|2FOUR|2FIVE|2SIX|2SEVEN|2EIGHT|2NINE|1SYLLABLE NDOLE MA|3DO"]),
  (0xA640, [
    "CYRILLIC CAPITAL LETTER ZEMLYA|1SMALL LETTER ZEMLYA|1CAPITAL LETTER DZELO",
    "1SMALL LETTER DZELO|1CAPITAL LETTER REVERSED DZE|1SMALL LETTER REVERSED DZE",
    "1CAPITAL LETTER IOTA|1SMALL LETTER IOTA|1CAPITAL LETTER DJERV|1SMALL LETTER DJERV",
    "1CAPITAL LETTER MONOGRAPH UK|1SMALL LETTER MONOGRAPH UK|1CAPITAL LETTER BROAD OMEGA",
    "1SMALL LETTER BROAD OMEGA|1CAPITAL LETTER NEUTRAL YER|1SMALL LETTER NEUTRAL YER",
    "1CAPITAL LETTER YERU WITH BACK YER|1SMALL LETTER YERU WITH BACK YER",
    "1CAPITAL LETTER IOTIFIED YAT|1SMALL LETTER IOTIFIED YAT|1CAPITAL LETTER REVERSED YU",
    "1SMALL LETTER REVERSED YU|1CAPITAL LETTER IOTIFIED A|1SMALL LETTER IOTIFIED A",
    "1CAPITAL LETTER CLOSED LITTLE YUS|1SMALL LETTER CLOSED LITTLE YUS",
    "1CAPITAL LETTER BLENDED YUS|1SMALL LETTER BLENDED YUS",
    "1CAPITAL LETTER IOTIFIED CLOSED LITTLE YUS|1SMALL LETTER IOTIFIED CLOSED LITTLE YUS",
    "1CAPITAL LETTER YN|1SMALL LETTER YN|1CAPITAL LETTER REVERSED TSE|1SMALL LETTER REVERSED TSE",
    "1CAPITAL LETTER SOFT DE|1SMALL LETTER SOFT DE|1CAPITAL LETTER SOFT EL|1SMALL LETTER SOFT EL",
    "1CAPITAL LETTER SOFT EM|1SMALL LETTER SOFT EM|1CAPITAL LETTER MONOCULAR O",
    "1SMALL LETTER MONOCULAR O|1CAPITAL LETTER BINOCULAR O|1SMALL LETTER BINOCULAR O",
    "1CAPITAL LETTER DOUBLE MONOCULAR O|1SMALL LETTER DOUBLE MONOCULAR O|1LETTER MULTIOCULAR O",
    "COMBINING CYRILLIC VZMET|2TEN MILLIONS SIGN|2HUNDRED MILLIONS SIGN|2THOUSAND MILLIONS SIGN",
    "SLAVONIC ASTERISK|COMBINING CYRILLIC LETTER UKRAINIAN IE|3I|3YI|3U|3HARD SIGN|3YERU",
    "3SOFT SIGN|3OMEGA|2KAVYKA|2PAYEROK|CYRILLIC KAVYKA|1PAYEROK|1CAPITAL LETTER DWE",
    "1SMALL LETTER DWE|1CAPITAL LETTER DZWE|1SMALL LETTER DZWE|1CAPITAL LETTER ZHWE",
    "1SMALL LETTER ZHWE|1CAPITAL LETTER CCHE|1SMALL LETTER CCHE|1CAPITAL LETTER DZZE",
    "1SMALL LETTER DZZE|1CAPITAL LETTER TE WITH MIDDLE HOOK|1SMALL LETTER TE WITH MIDDLE HOOK",
    "1CAPITAL LETTER TWE|1SMALL LETTER TWE|1CAPITAL LETTER TSWE|1SMALL LETTER TSWE",
    "1CAPITAL LETTER TSSE|1SMALL LETTER TSSE|1CAPITAL LETTER TCHE|1SMALL LETTER TCHE",
    "1CAPITAL LETTER HWE|1SMALL LETTER HWE|1CAPITAL LETTER SHWE|1SMALL LETTER SHWE",
    "1CAPITAL LETTER DOUBLE O|1SMALL LETTER DOUBLE O|1CAPITAL LETTER CROSSED O",
    "1SMALL LETTER CROSSED O|MODIFIER LETTER CYRILLIC HARD SIGN|3SOFT SIGN",
    "COMBINING CYRILLIC LETTER EF|3IOTIFIED E|BAMUM LETTER A|2KA|2U|2KU|2EE|2REE|2TAE|2O|2NYI|2I",
    "2LA|2PA|2RII|2RIEE|2LEEEE|2MEEEE|2TAA|2NDAA|2NJAEM|2M|2SUU|2MU|2SHII|2SI|2SHEUX|2SEUX|2KYEE",
    "2KET|2NUAE|2NU|2NJUAE|2YOQ|2SHU|2YUQ|2YA|2NSHA|2KEUX|2PEUX|2NJEE|2NTEE|2PUE|2WUE|2PEE|2FEE",
    "2RU|2LU|2MI|2NI|2REUX|2RAE|2KEN|2NGKWAEN|2NGGA|2NGA|2SHO|2PUAE|2FU|2FOM|2WA|2NA|2LI|2PI|2LOQ",
    "2KO|2MBEN|2REN|2MEN|2MA|2TI|2KI|2MO|2MBAA|2TET|2KPA|2TEN|2NTUU|2SAMBA|2FAAMAE|2KOVUU|2KOGHOM",
    "1COMBINING MARK KOQNDON|3TUKWENTIS|1NJAEMLI|1FULL STOP|1COLON|1COMMA|1SEMICOLON",
    "1QUESTION MARK"]),
  (0xA700, [
    "MODIFIER LETTER CHINESE TONE YIN PING|4YANG PING|4YIN SHANG|4YANG SHANG|4YIN QU|4YANG QU",
    "4YIN RU|4YANG RU|2EXTRA-HIGH DOTTED TONE BAR|2HIGH DOTTED TONE BAR|2MID DOTTED TONE BAR",
    "2LOW DOTTED TONE BAR|2EXTRA-LOW DOTTED TONE BAR|2EXTRA-HIGH DOTTED LEFT-STEM TONE BAR",
    "2HIGH DOTTED LEFT-STEM TONE BAR|2MID DOTTED LEFT-STEM TONE BAR",
    "2LOW DOTTED LEFT-STEM TONE BAR|2EXTRA-LOW DOTTED LEFT-STEM TONE BAR",
    "2EXTRA-HIGH LEFT-STEM TONE BAR|2HIGH LEFT-STEM TONE BAR|2MID LEFT-STEM TONE BAR",
    "2LOW LEFT-STEM TONE BAR|2EXTRA-LOW LEFT-STEM TONE BAR|2DOT VERTICAL BAR|3SLASH",
    "3HORIZONTAL BAR|2LOWER RIGHT CORNER ANGLE|2RAISED UP ARROW|3DOWN ARROW|3EXCLAMATION MARK",
    "3INVERTED EXCLAMATION MARK|2LOW INVERTED EXCLAMATION MARK|2STRESS AND HIGH TONE|4LOW TONE",
    "LATIN CAPITAL LETTER EGYPTOLOGICAL ALEF|1SMALL LETTER EGYPTOLOGICAL ALEF",
    "1CAPITAL LETTER EGYPTOLOGICAL AIN|1SMALL LETTER EGYPTOLOGICAL AIN|1CAPITAL LETTER HENG",
    "1SMALL LETTER HENG|1CAPITAL LETTER TZ|1SMALL LETTER TZ|1CAPITAL LETTER TRESILLO",
    "1SMALL LETTER TRESILLO|1CAPITAL LETTER CUATRILLO|1SMALL LETTER CUATRILLO",
    "1CAPITAL LETTER CUATRILLO WITH COMMA|1SMALL LETTER CUATRILLO WITH COMMA",
    "1LETTER SMALL CAPITAL F|4S|1CAPITAL LETTER AA|1SMALL LETTER AA|1CAPITAL LETTER AO",
    "1SMALL LETTER AO|1CAPITAL LETTER AU|1SMALL LETTER AU|1CAPITAL LETTER AV|1SMALL LETTER AV",
    "1CAPITAL LETTER AV WITH HORIZONTAL BAR|1SMALL LETTER AV WITH HORIZONTAL BAR",
    "1CAPITAL LETTER AY|1SMALL LETTER AY|1CAPITAL LETTER REVERSED C WITH DOT",
    "1SMALL LETTER REVERSED C WITH DOT|1CAPITAL LETTER K WITH STROKE|1SMALL LETTER K WITH STROKE",
    "1CAPITAL LETTER K WITH DIAGONAL STROKE|1SMALL LETTER K WITH DIAGONAL STROKE",
    "1CAPITAL LETTER K WITH STROKE AND DIAGONAL STROKE",
    "1SMALL LETTER K WITH STROKE AND DIAGONAL STROKE|1CAPITAL LETTER BROKEN L",
    "1SMALL LETTER BROKEN L|1CAPITAL LETTER L WITH HIGH STROKE|1SMALL LETTER L WITH HIGH STROKE",
    "1CAPITAL LETTER O WITH LONG STROKE OVERLAY|1SMALL LETTER O WITH LONG STROKE OVERLAY",
    "1CAPITAL LETTER O WITH LOOP|1SMALL LETTER O WITH LOOP|1CAPITAL LETTER OO|1SMALL LETTER OO",
    "1CAPITAL LETTER P WITH STROKE THROUGH DESCENDER",
    "1SMALL LETTER P WITH STROKE THROUGH DESCENDER|1CAPITAL LETTER P WITH FLOURISH",
    "1SMALL LETTER P WITH FLOURISH|1CAPITAL LETTER P WITH SQUIRREL TAIL",
    "1SMALL LETTER P WITH SQUIRREL TAIL|1CAPITAL LETTER Q WITH STROKE THROUGH DESCENDER",
    "1SMALL LETTER Q WITH STROKE THROUGH DESCENDER|1CAPITAL LETTER Q WITH DIAGONAL STROKE",
    "1SMALL LETTER Q WITH DIAGONAL STROKE|1CAPITAL LETTER R ROTUNDA|1SMALL LETTER R ROTUNDA",
    "1CAPITAL LETTER RUM ROTUNDA|1SMALL LETTER RUM ROTUNDA|1CAPITAL LETTER V WITH DIAGONAL STROKE",
    "1SMALL LETTER V WITH DIAGONAL STROKE|1CAPITAL LETTER VY|1SMALL LETTER VY",
    "1CAPITAL LETTER VISIGOTHIC Z|1SMALL LETTER VISIGOTHIC Z|1CAPITAL LETTER THORN WITH STROKE",
    "1SMALL LETTER THORN WITH STROKE|1CAPITAL LETTER THORN WITH STROKE THROUGH DESCENDER",
    "1SMALL LETTER THORN WITH STROKE THROUGH DESCENDER|1CAPITAL LETTER VEND|1SMALL LETTER VEND",
    "1CAPITAL LETTER ET|1SMALL LETTER ET|1CAPITAL LETTER IS|1SMALL LETTER IS|1CAPITAL LETTER CON",
    "1SMALL LETTER CON|MODIFIER LETTER US|LATIN SMALL LETTER DUM|3LUM|3MUM|3NUM|3RUM",
    "1LETTER SMALL CAPITAL RUM|1SMALL LETTER TUM|3UM|1CAPITAL LETTER INSULAR D",
    "1SMALL LETTER INSULAR D|1CAPITAL LETTER INSULAR F|1SMALL LETTER INSULAR F",
    "1CAPITAL LETTER INSULAR G|3TURNED INSULAR G|1SMALL LETTER TURNED INSULAR G",
    "1CAPITAL LETTER TURNED L|1SMALL LETTER TURNED L|1CAPITAL LETTER INSULAR R",
    "1SMALL LETTER INSULAR R|1CAPITAL LETTER INSULAR S|1SMALL LETTER INSULAR S",
    "1CAPITAL LETTER INSULAR T|1SMALL LETTER INSULAR T|MODIFIER LETTER LOW CIRCUMFLEX ACCENT",
    "2COLON|2SHORT EQUALS SIGN|LATIN CAPITAL LETTER SALTILLO|1SMALL LETTER SALTILLO",
    "1CAPITAL LETTER TURNED H|1SMALL LETTER L WITH RETROFLEX HOOK AND BELT",
    "1LETTER SINOLOGICAL DOT|1CAPITAL LETTER N WITH DESCENDER|1SMALL LETTER N WITH DESCENDER",
    "1CAPITAL LETTER C WITH BAR|1SMALL LETTER C WITH BAR|5PALATAL HOOK|3H WITH PALATAL HOOK",
    "1CAPITAL LETTER B WITH FLOURISH|1SMALL LETTER B WITH FLOURISH|1CAPITAL LETTER F WITH STROKE",
    "1SMALL LETTER F WITH STROKE|1CAPITAL LETTER VOLAPUK AE|1SMALL LETTER VOLAPUK AE",
    "1CAPITAL LETTER VOLAPUK OE|1SMALL LETTER VOLAPUK OE|1CAPITAL LETTER VOLAPUK UE",
    "1SMALL LETTER VOLAPUK UE|1CAPITAL LETTER G WITH OBLIQUE STROKE",
    "1SMALL LETTER G WITH OBLIQUE STROKE|1CAPITAL LETTER K WITH OBLIQUE STROKE",
    "1SMALL LETTER K WITH OBLIQUE STROKE|1CAPITAL LETTER N WITH OBLIQUE STROKE",
    "1SMALL LETTER N WITH OBLIQUE STROKE|1CAPITAL LETTER R WITH OBLIQUE STROKE",
    "1SMALL LETTER R WITH OBLIQUE STROKE|1CAPITAL LETTER S WITH OBLIQUE STROKE",
    "1SMALL LETTER S WITH OBLIQUE STROKE|1CAPITAL LETTER H WITH HOOK|3REVERSED OPEN E|3SCRIPT G",
    "3L WITH BELT|3SMALL CAPITAL I|1LETTER SMALL CAPITAL Q|1CAPITAL LETTER TURNED K|4T",
    "3J WITH CROSSED-TAIL|3CHI|3BETA|1SMALL LETTER BETA|1CAPITAL LETTER OMEGA|1SMALL LETTER OMEGA",
    "1CAPITAL LETTER U WITH STROKE|1SMALL LETTER U WITH STROKE|1CAPITAL LETTER GLOTTAL A",
    "1SMALL LETTER GLOTTAL A|1CAPITAL LETTER GLOTTAL I|1SMALL LETTER GLOTTAL I",
    "1CAPITAL LETTER GLOTTAL U|1SMALL LETTER GLOTTAL U|1CAPITAL LETTER OLD POLISH O",
    "1SMALL LETTER OLD POLISH O|1CAPITAL LETTER ANGLICANA W|1SMALL LETTER ANGLICANA W",
    "1CAPITAL LETTER C WITH PALATAL HOOK|3S WITH HOOK|3Z WITH PALATAL HOOK",
    "3D WITH SHORT STROKE OVERLAY|1SMALL LETTER D WITH SHORT STROKE OVERLAY",
    "1CAPITAL LETTER S WITH SHORT STROKE OVERLAY|1SMALL LETTER S WITH SHORT STROKE OVERLAY"]),
  (0xA7D0, ["LATIN CAPITAL LETTER CLOSED INSULAR G|1SMALL LETTER CLOSED INSULAR G"]),
  (0xA7D3, ["LATIN SMALL LETTER DOUBLE THORN"]),
  (0xA7D5, [
    "LATIN SMALL LETTER DOUBLE WYNN|1CAPITAL LETTER MIDDLE SCOTS S|1SMALL LETTER MIDDLE SCOTS S",
    "1CAPITAL LETTER SIGMOID S|1SMALL LETTER SIGMOID S"]),
  (0xA7F2, [
    "MODIFIER LETTER CAPITAL C|3F|3Q|LATIN CAPITAL LETTER REVERSED HALF H",
    "1SMALL LETTER REVERSED HALF H|1EPIGRAPHIC LETTER SIDEWAYS I",
    "MODIFIER LETTER CAPITAL H WITH STROKE|2SMALL LIGATURE OE|LATIN LETTER SMALL CAPITAL TURNED M",
    "1EPIGRAPHIC LETTER REVERSED F|4P|3INVERTED M|3I LONGA|3ARCHAIC M|SYLOTI NAGRI LETTER A|3I",
    "2SIGN DVISVARA|2LETTER U|3E|3O|2SIGN HASANTA|2LETTER KO|3KHO|3GO|3GHO|2SIGN ANUSVARA",
    "2LETTER CO|3CHO|3JO|3JHO|3TTO|3TTHO|3DDO|3DDHO|3TO|3THO|3DO|3DHO|3NO|3PO|3PHO|3BO|3BHO|3MO",
    "3RO|3LO|3RRO|3SO|3HO|2VOWEL SIGN A|4I|4U|4E|4OO|2POETRY MARK-1|3MARK-2|3MARK-3|3MARK-4",
    "2SIGN ALTERNATE HASANTA"]),
  (0xA830, [
    "NORTH INDIC FRACTION ONE QUARTER|4HALF|3THREE QUARTERS|3ONE SIXTEENTH|4EIGHTH",
    "3THREE SIXTEENTHS|2QUARTER MARK|2PLACEHOLDER MARK|2RUPEE MARK|2QUANTITY MARK"]),
  (0xA840, [
    "PHAGS-PA LETTER KA|2KHA|2GA|2NGA|2CA|2CHA|2JA|2NYA|2TA|2THA|2DA|2NA|2PA|2PHA|2BA|2MA|2TSA",
    "2TSHA|2DZA|2WA|2ZHA|2ZA|2SMALL A|2YA|2RA|2LA|2SHA|2SA|2HA|2A|2I|2U|2E|2O|2QA|2XA|2FA|2GGA",
    "2EE|1SUBJOINED LETTER WA|3YA|1LETTER TTA|2TTHA|2DDA|2NNA|2ALTERNATE YA|2VOICELESS SHA",
    "2VOICED HA|2ASPIRATED FA|1SUBJOINED LETTER RA|1SUPERFIXED LETTER RA|1LETTER CANDRABINDU",
    "1SINGLE HEAD MARK|1DOUBLE HEAD MARK|1MARK SHAD|2DOUBLE SHAD"]),
  (0xA880, [
    "SAURASHTRA SIGN ANUSVARA|2VISARGA|1LETTER A|2AA|2I|2II|2U|2UU|2VOCALIC R|3RR|3L|3LL|2E|2EE",
    "2AI|2O|2OO|2AU|2KA|2KHA|2GA|2GHA|2NGA|2CA|2CHA|2JA|2JHA|2NYA|2TTA|2TTHA|2DDA|2DDHA|2NNA|2TA",
    "2THA|2DA|2DHA|2NA|2PA|2PHA|2BA|2BHA|2MA|2YA|2RA|2LA|2VA|2SHA|2SSA|2SA|2HA|2LLA",
    "1CONSONANT SIGN HAARU|1VOWEL SIGN AA|3I|3II|3U|3UU|3VOCALIC R|4RR|4L|4LL|3E|3EE|3AI|3O|3OO",
    "3AU|1SIGN VIRAMA|2CANDRABINDU"]),
  (0xA8CE, [
    "SAURASHTRA DANDA|1DOUBLE DANDA|1DIGIT ZERO|2ONE|2TWO|2THREE|2FOUR|2FIVE|2SIX|2SEVEN|2EIGHT",
    "2NINE"]),
  (0xA8E0, [
    "COMBINING DEVANAGARI DIGIT ZERO|3ONE|3TWO|3THREE|3FOUR|3FIVE|3SIX|3SEVEN|3EIGHT|3NINE",
    "2LETTER A|3U|3KA|3NA|3PA|3RA|3VI|2SIGN AVAGRAHA|DEVANAGARI SIGN SPACING CANDRABINDU",
    "2CANDRABINDU VIRAMA|2DOUBLE CANDRABINDU VIRAMA|2CANDRABINDU TWO|3THREE|3AVAGRAHA|2PUSHPIKA",
    "1GAP FILLER|1CARET|1HEADSTROKE|1SIGN SIDDHAM|1JAIN OM|1LETTER AY|1VOWEL SIGN AY",
    "KAYAH LI DIGIT ZERO|3ONE|3TWO|3THREE|3FOUR|3FIVE|3SIX|3SEVEN|3EIGHT|3NINE|2LETTER KA|3KHA",
    "3GA|3NGA|3SA|3SHA|3ZA|3NYA|3TA|3HTA|3NA|3PA|3PHA|3MA|3DA|3BA|3RA|3YA|3LA|3WA|3THA|3HA|3VA",
    "3CA|3A|3OE|3I|3OO|2VOWEL UE|3E|3U|3EE|3O|2TONE PLOPHU|3CALYA|4PLOPHU|2SIGN CWI|3SHYA",
    "REJANG LETTER KA|2GA|2NGA|2TA|2DA|2NA|2PA|2BA|2MA|2CA|2JA|2NYA|2SA|2RA|2LA|2YA|2WA|2HA|2MBA",
    "2NGGA|2NDA|2NYJA|2A|1VOWEL SIGN I|3U|3E|3AI|3O|3AU|3EU|3EA|1CONSONANT SIGN NG|3N|3R|3H",
    "1VIRAMA"]),
  (0xA95F, [
    "REJANG SECTION MARK|HANGUL CHOSEONG TIKEUT-MIEUM|2TIKEUT-PIEUP|2TIKEUT-SIOS|2TIKEUT-CIEUC",
    "2RIEUL-KIYEOK|2RIEUL-SSANGKIYEOK|2RIEUL-TIKEUT|2RIEUL-SSANGTIKEUT|2RIEUL-MIEUM|2RIEUL-PIEUP",
    "2RIEUL-SSANGPIEUP|2RIEUL-KAPYEOUNPIEUP|2RIEUL-SIOS|2RIEUL-CIEUC|2RIEUL-KHIEUKH|2MIEUM-KIYEOK",
    "2MIEUM-TIKEUT|2MIEUM-SIOS|2PIEUP-SIOS-THIEUTH|2PIEUP-KHIEUKH|2PIEUP-HIEUH|2SSANGSIOS-PIEUP",
    "2IEUNG-RIEUL|2IEUNG-HIEUH|2SSANGCIEUC-HIEUH|2SSANGTHIEUTH|2PHIEUPH-HIEUH|2HIEUH-SIOS",
    "2SSANGYEORINHIEUH"]),
  (0xA980, [
    "JAVANESE SIGN PANYANGGA|2CECAK|2LAYAR|2WIGNYAN|1LETTER A|2I KAWI|3|2II|2U|2PA CEREK",
    "2NGA LELET|4RASWADI|2E|2AI|2O|2KA|3SASAK|3MURDA|2GA|3MURDA|2NGA|2CA|3MURDA|2JA|2NYA MURDA",
    "2JA MAHAPRANA|2NYA|2TTA|3MAHAPRANA|2DDA|3MAHAPRANA|2NA MURDA|2TA|3MURDA|2DA|3MAHAPRANA|2NA",
    "2PA|3MURDA|2BA|3MURDA|2MA|2YA|2RA|3AGUNG|2LA|2WA|2SA MURDA|3MAHAPRANA|3|2HA|1SIGN CECAK TELU",
    "1VOWEL SIGN TARUNG|3TOLONG|3WULU|4MELIK|3SUKU|4MENDUT|3TALING|3DIRGA MURE|3PEPET",
    "1CONSONANT SIGN KERET|3PENGKAL|3CAKRA|1PANGKON|1LEFT RERENGGAN|1RIGHT RERENGGAN|1PADA ANDAP",
    "2MADYA|2LUHUR|2WINDU|2PANGKAT|2LINGSA|2LUNGSI|2ADEG|3ADEG|2PISELEH|1TURNED PADA PISELEH"]),
  (0xA9CF, [
    "JAVANESE PANGRANGKEP|1DIGIT ZERO|2ONE|2TWO|2THREE|2FOUR|2FIVE|2SIX|2SEVEN|2EIGHT|2NINE"]),
  (0xA9DE, [
    "JAVANESE PADA TIRTA TUMETES|2ISEN-ISEN|MYANMAR LETTER SHAN GHA|3CHA|3JHA|3NNA|3BHA",
    "1SIGN SHAN SAW|1MODIFIER LETTER SHAN REDUPLICATION|1LETTER TAI LAING NYA|4FA|4GA|4GHA|4JA",
    "4JHA|4DDA|4DDHA|4NNA|1TAI LAING DIGIT ZERO|4ONE|4TWO|4THREE|4FOUR|4FIVE|4SIX|4SEVEN|4EIGHT",
    "4NINE|1LETTER TAI LAING LLA|4DA|4DHA|4BA|4BHA"]),
  (0xAA00, [
    "CHAM LETTER A|2I|2U|2E|2AI|2O|2KA|2KHA|2GA|2GHA|2NGUE|2NGA|2CHA|2CHHA|2JA|2JHA|2NHUE|2NHA",
    "2NHJA|2TA|2THA|2DA|2DHA|2NUE|2NA|2DDA|2PA|2PPA|2PHA|2BA|2BHA|2MUE|2MA|2BBA|2YA|2RA|2LA|2VA",
    "2SSA|2SA|2HA|1VOWEL SIGN AA|3I|3II|3EI|3U|3OE|3O|3AI|3AU|3UE|1CONSONANT SIGN YA|3RA|3LA|3WA"]),
  (0xAA40, [
    "CHAM LETTER FINAL K|3G|3NG|1CONSONANT SIGN FINAL NG|1LETTER FINAL CH|3T|3N|3P|3Y|3R|3L|3SS",
    "1CONSONANT SIGN FINAL M|4H"]),
  (0xAA50, ["CHAM DIGIT ZERO|2ONE|2TWO|2THREE|2FOUR|2FIVE|2SIX|2SEVEN|2EIGHT|2NINE"]),
  (0xAA5C, [
    "CHAM PUNCTUATION SPIRAL|2DANDA|2DOUBLE DANDA|2TRIPLE DANDA|MYANMAR LETTER KHAMTI GA|3CA|3CHA",
    "3JA|3JHA|3NYA|3TTA|3TTHA|3DDA|3DDHA|3DHA|3NA|3SA|3HA|3HHA|3FA",
    "1MODIFIER LETTER KHAMTI REDUPLICATION|1LETTER KHAMTI XA|3ZA|3RA|1LOGOGRAM KHAMTI OAY|3QN|3HM",
    "1SYMBOL AITON EXCLAMATION|3ONE|3TWO|1LETTER AITON RA|1SIGN PAO KAREN TONE|2TAI LAING TONE-2",
    "4TONE-5|1LETTER SHWE PALAUNG CHA|4SHA|TAI VIET LETTER LOW KO|3HIGH KO|3LOW KHO|3HIGH KHO",
    "3LOW KHHO|3HIGH KHHO|3LOW GO|3HIGH GO|3LOW NGO|3HIGH NGO|3LOW CO|3HIGH CO|3LOW CHO|3HIGH CHO",
    "3LOW SO|3HIGH SO|3LOW NYO|3HIGH NYO|3LOW DO|3HIGH DO|3LOW TO|3HIGH TO|3LOW THO|3HIGH THO",
    "3LOW NO|3HIGH NO|3LOW BO|3HIGH BO|3LOW PO|3HIGH PO|3LOW PHO|3HIGH PHO|3LOW FO|3HIGH FO",
    "3LOW MO|3HIGH MO|3LOW YO|3HIGH YO|3LOW RO|3HIGH RO|3LOW LO|3HIGH LO|3LOW VO|3HIGH VO|3LOW HO",
    "3HIGH HO|3LOW O|3HIGH O|2MAI KANG|2VOWEL AA|3I|3UE|3U|3E|3O|2MAI KHIT|2VOWEL IA|3UEA|3UA",
    "3AUE|3AY|3AN|3AM|2TONE MAI EK|4NUENG|4THO|4SONG"]),
  (0xAADB, [
    "TAI VIET SYMBOL KON|3NUENG|3SAM|3HO HOI|3KOI KOI|MEETEI MAYEK LETTER E|3O|3CHA|3NYA|3TTA",
    "3TTHA|3DDA|3DDHA|3NNA|3SHA|3SSA|2VOWEL SIGN II|4UU|4AAI|4AU|4AAU|2CHEIKHAN|2AHANG KHUDAM",
    "2ANJI|2SYLLABLE REPETITION MARK|2WORD REPETITION MARK|2VOWEL SIGN VISARGA|2VIRAMA"]),
  (0xAB01, ["ETHIOPIC SYLLABLE TTHU|2TTHI|2TTHAA|2TTHEE|2TTHE|2TTHO"]),
  (0xAB09, ["ETHIOPIC SYLLABLE DDHU|2DDHI|2DDHAA|2DDHEE|2DDHE|2DDHO"]),
  (0xAB11, ["ETHIOPIC SYLLABLE DZU|2DZI|2DZAA|2DZEE|2DZE|2DZO"]),
  (0xAB20, ["ETHIOPIC SYLLABLE CCHHA|2CCHHU|2CCHHI|2CCHHAA|2CCHHEE|2CCHHE|2CCHHO"]),
  (0xAB28, ["ETHIOPIC SYLLABLE BBA|2BBU|2BBI|2BBAA|2BBEE|2BBE|2BBO"]),
  (0xAB30, [
    "LATIN SMALL LETTER BARRED ALPHA|3A REVERSED-SCHWA|3BLACKLETTER E|3BARRED E|3E WITH FLOURISH",
    "3LENIS F|3SCRIPT G WITH CROSSED-TAIL|3L WITH INVERTED LAZY S|5DOUBLE MIDDLE TILDE",
    "5MIDDLE RING|3M WITH CROSSED-TAIL|3N WITH CROSSED-TAIL|3ENG WITH CROSSED-TAIL|3BLACKLETTER O",
    "5WITH STROKE|3OPEN O WITH STROKE|3INVERTED OE|3TURNED OE WITH STROKE|6HORIZONTAL STROKE",
    "4O OPEN-O|6WITH STROKE|3STIRRUP R|1LETTER SMALL CAPITAL R WITH RIGHT LEG",
    "1SMALL LETTER R WITHOUT HANDLE|3DOUBLE R|3R WITH CROSSED-TAIL|3DOUBLE R WITH CROSSED-TAIL",
    "3SCRIPT R|5WITH RING|3BASELINE ESH|3U WITH SHORT RIGHT LEG|4BAR WITH SHORT RIGHT LEG|3UI",
    "3TURNED UI|3U WITH LEFT HOOK|3CHI|4WITH LOW RIGHT RING|6LEFT SERIF|3X WITH LOW RIGHT RING",
    "5LONG LEFT LEG|8AND LOW RIGHT RING|8WITH SERIF|3Y WITH SHORT RIGHT LEG",
    "MODIFIER BREVE WITH INVERTED BREVE|1LETTER SMALL HENG|3L WITH INVERTED LAZY S|5MIDDLE TILDE",
    "3U WITH LEFT HOOK|LATIN SMALL LETTER SAKHA YAT|3IOTIFIED E|3OPEN OE|3UO|3INVERTED ALPHA",
    "GREEK LETTER SMALL CAPITAL OMEGA|LATIN SMALL LETTER DZ DIGRAPH WITH RETROFLEX HOOK",
    "3TS DIGRAPH WITH RETROFLEX HOOK|3TURNED R WITH MIDDLE TILDE|MODIFIER LETTER SMALL TURNED W",
    "2LEFT TACK|2RIGHT TACK"]),
  (0xAB70, [
    "CHEROKEE SMALL LETTER A|3E|3I|3O|3U|3V|3GA|3KA|3GE|3GI|3GO|3GU|3GV|3HA|3HE|3HI|3HO|3HU|3HV",
    "3LA|3LE|3LI|3LO|3LU|3LV|3MA|3ME|3MI|3MO|3MU|3NA|3HNA|3NAH|3NE|3NI|3NO|3NU|3NV|3QUA|3QUE|3QUI",
    "3QUO|3QUU|3QUV|3SA|3S|3SE|3SI|3SO|3SU|3SV|3DA|3TA|3DE|3TE|3DI|3TI|3DO|3DU|3DV|3DLA|3TLA|3TLE",
    "3TLI|3TLO|3TLU|3TLV|3TSA|3TSE|3TSI|3TSO|3TSU|3TSV|3WA|3WE|3WI|3WO|3WU|3WV|3YA",
    "MEETEI MAYEK LETTER KOK|3SAM|3LAI|3MIT|3PA|3NA|3CHIL|3TIL|3KHOU|3NGOU|3THOU|3WAI|3YANG|3HUK",
    "3UN|3I|3PHAM|3ATIYA|3GOK|3JHAM|3RAI|3BA|3JIL|3DIL|3GHOU|3DHOU|3BHAM|3KOK LONSUM|3LAI LONSUM",
    "3MIT LONSUM|3PA LONSUM|3NA LONSUM|3TIL LONSUM|3NGOU LONSUM|3I LONSUM|2VOWEL SIGN ONAP|4INAP",
    "4ANAP|4YENAP|4SOUNAP|4UNAP|4CHEINAP|4NUNG|2CHEIKHEI|2LUM IYEK|2APUN IYEK"]),
  (0xABF0, ["MEETEI MAYEK DIGIT ZERO|3ONE|3TWO|3THREE|3FOUR|3FIVE|3SIX|3SEVEN|3EIGHT|3NINE"]),
  (0xD7B0, [
    "HANGUL JUNGSEONG O-YEO|2O-O-I|2YO-A|2YO-AE|2YO-EO|2U-YEO|2U-I-I|2YU-AE|2YU-O|2EU-A|2EU-EO",
    "2EU-E|2EU-O|2I-YA-O|2I-YAE|2I-YEO|2I-YE|2I-O-I|2I-YO|2I-YU|2I-I|2ARAEA-A|2ARAEA-E"]),
  (0xD7CB, [
    "HANGUL JONGSEONG NIEUN-RIEUL|2NIEUN-CHIEUCH|2SSANGTIKEUT|2SSANGTIKEUT-PIEUP|2TIKEUT-PIEUP",
    "2TIKEUT-SIOS|2TIKEUT-SIOS-KIYEOK|2TIKEUT-CIEUC|2TIKEUT-CHIEUCH|2TIKEUT-THIEUTH",
    "2RIEUL-SSANGKIYEOK|2RIEUL-KIYEOK-HIEUH|2SSANGRIEUL-KHIEUKH|2RIEUL-MIEUM-HIEUH",
    "2RIEUL-PIEUP-TIKEUT|2RIEUL-PIEUP-PHIEUPH|2RIEUL-YESIEUNG|2RIEUL-YEORINHIEUH-HIEUH",
    "2KAPYEOUNRIEUL|2MIEUM-NIEUN|2MIEUM-SSANGNIEUN|2SSANGMIEUM|2MIEUM-PIEUP-SIOS|2MIEUM-CIEUC",
    "2PIEUP-TIKEUT|2PIEUP-RIEUL-PHIEUPH|2PIEUP-MIEUM|2SSANGPIEUP|2PIEUP-SIOS-TIKEUT|2PIEUP-CIEUC",
    "2PIEUP-CHIEUCH|2SIOS-MIEUM|2SIOS-KAPYEOUNPIEUP|2SSANGSIOS-KIYEOK|2SSANGSIOS-TIKEUT",
    "2SIOS-PANSIOS|2SIOS-CIEUC|2SIOS-CHIEUCH|2SIOS-THIEUTH|2SIOS-HIEUH|2PANSIOS-PIEUP",
    "2PANSIOS-KAPYEOUNPIEUP|2YESIEUNG-MIEUM|2YESIEUNG-HIEUH|2CIEUC-PIEUP|2CIEUC-SSANGPIEUP",
    "2SSANGCIEUC|2PHIEUPH-SIOS|2PHIEUPH-THIEUTH"]),
  (0xFB00, ["LATIN SMALL LIGATURE FF|3FI|3FL|3FFI|3FFL|3LONG S T|3ST"]),
  (0xFB13, ["ARMENIAN SMALL LIGATURE MEN NOW|4ECH|4INI|3VEW NOW|3MEN XEH"]),
  (0xFB1D, [
    "HEBREW LETTER YOD WITH HIRIQ|1POINT JUDEO-SPANISH VARIKA|1LIGATURE YIDDISH YOD YOD PATAH",
    "1LETTER ALTERNATIVE AYIN|2WIDE ALEF|3DALET|3HE|3KAF|3LAMED|3FINAL MEM|3RESH|3TAV",
    "2ALTERNATIVE PLUS SIGN|2SHIN WITH SHIN DOT|4SIN DOT|4DAGESH AND SHIN DOT|6SIN DOT",
    "2ALEF WITH PATAH|4QAMATS|4MAPIQ|2BET WITH DAGESH|2GIMEL WITH DAGESH|2DALET WITH DAGESH",
    "2HE WITH MAPIQ|2VAV WITH DAGESH|2ZAYIN WITH DAGESH"]),
  (0xFB38, [
    "HEBREW LETTER TET WITH DAGESH|2YOD WITH DAGESH|2FINAL KAF WITH DAGESH|2KAF WITH DAGESH",
    "2LAMED WITH DAGESH"]),
  (0xFB3E, ["HEBREW LETTER MEM WITH DAGESH"]),
  (0xFB40, ["HEBREW LETTER NUN WITH DAGESH|2SAMEKH WITH DAGESH"]),
  (0xFB43, ["HEBREW LETTER FINAL PE WITH DAGESH|2PE WITH DAGESH"]),
  (0xFB46, [
    "HEBREW LETTER TSADI WITH DAGESH|2QOF WITH DAGESH|2RESH WITH DAGESH|2SHIN WITH DAGESH",
    "2TAV WITH DAGESH|2VAV WITH HOLAM|2BET WITH RAFE|2KAF WITH RAFE|2PE WITH RAFE",
    "1LIGATURE ALEF LAMED|ARABIC LETTER ALEF WASLA ISOLATED FORM|4FINAL FORM|2BEEH ISOLATED FORM",
    "3FINAL FORM|3INITIAL FORM|3MEDIAL FORM|2PEH ISOLATED FORM|3FINAL FORM|3INITIAL FORM",
    "3MEDIAL FORM|2BEHEH ISOLATED FORM|3FINAL FORM|3INITIAL FORM|3MEDIAL FORM",
    "2TTEHEH ISOLATED FORM|3FINAL FORM|3INITIAL FORM|3MEDIAL FORM|2TEHEH ISOLATED FORM",
    "3FINAL FORM|3INITIAL FORM|3MEDIAL FORM|2TTEH ISOLATED FORM|3FINAL FORM|3INITIAL FORM",
    "3MEDIAL FORM|2VEH ISOLATED FORM|3FINAL FORM|3INITIAL FORM|3MEDIAL FORM|2PEHEH ISOLATED FORM",
    "3FINAL FORM|3INITIAL FORM|3MEDIAL FORM|2DYEH ISOLATED FORM|3FINAL FORM|3INITIAL FORM",
    "3MEDIAL FORM|2NYEH ISOLATED FORM|3FINAL FORM|3INITIAL FORM|3MEDIAL FORM|2TCHEH ISOLATED FORM",
    "3FINAL FORM|3INITIAL FORM|3MEDIAL FORM|2TCHEHEH ISOLATED FORM|3FINAL FORM|3INITIAL FORM",
    "3MEDIAL FORM|2DDAHAL ISOLATED FORM|3FINAL FORM|2DAHAL ISOLATED FORM|3FINAL FORM",
    "2DUL ISOLATED FORM|3FINAL FORM|2DDAL ISOLATED FORM|3FINAL FORM|2JEH ISOLATED FORM",
    "3FINAL FORM|2RREH ISOLATED FORM|3FINAL FORM|2KEHEH ISOLATED FORM|3FINAL FORM|3INITIAL FORM",
    "3MEDIAL FORM|2GAF ISOLATED FORM|3FINAL FORM|3INITIAL FORM|3MEDIAL FORM|2GUEH ISOLATED FORM",
    "3FINAL FORM|3INITIAL FORM|3MEDIAL FORM|2NGOEH ISOLATED FORM|3FINAL FORM|3INITIAL FORM",
    "3MEDIAL FORM|2NOON GHUNNA ISOLATED FORM|4FINAL FORM|2RNOON ISOLATED FORM|3FINAL FORM",
    "3INITIAL FORM|3MEDIAL FORM|2HEH WITH YEH ABOVE ISOLATED FORM|6FINAL FORM|3GOAL ISOLATED FORM",
    "4FINAL FORM|4INITIAL FORM|4MEDIAL FORM|3DOACHASHMEE ISOLATED FORM|4FINAL FORM|4INITIAL FORM",
    "4MEDIAL FORM|2YEH BARREE ISOLATED FORM|4FINAL FORM|4WITH HAMZA ABOVE ISOLATED FORM",
    "7FINAL FORM|1SYMBOL DOT ABOVE|3BELOW|2TWO DOTS ABOVE|4BELOW|2THREE DOTS ABOVE|4BELOW",
    "4POINTING DOWNWARDS ABOVE|6BELOW|2FOUR DOTS ABOVE|4BELOW|2DOUBLE VERTICAL BAR BELOW",
    "2TWO DOTS VERTICALLY ABOVE|5BELOW|2RING|2SMALL TAH ABOVE|4BELOW|2WASLA ABOVE"]),
  (0xFBD3, [
    "ARABIC LETTER NG ISOLATED FORM|3FINAL FORM|3INITIAL FORM|3MEDIAL FORM|2U ISOLATED FORM",
    "3FINAL FORM|2OE ISOLATED FORM|3FINAL FORM|2YU ISOLATED FORM|3FINAL FORM",
    "2U WITH HAMZA ABOVE ISOLATED FORM|2VE ISOLATED FORM|3FINAL FORM|2KIRGHIZ OE ISOLATED FORM",
    "4FINAL FORM|3YU ISOLATED FORM|4FINAL FORM|2E ISOLATED FORM|3FINAL FORM|3INITIAL FORM",
    "3MEDIAL FORM|2UIGHUR KAZAKH KIRGHIZ ALEF MAKSURA INITIAL FORM|7MEDIAL FORM",
    "1LIGATURE YEH WITH HAMZA ABOVE WITH ALEF ISOLATED FORM|8FINAL FORM|7AE ISOLATED FORM",
    "8FINAL FORM|7WAW ISOLATED FORM|8FINAL FORM|7U ISOLATED FORM|8FINAL FORM|7OE ISOLATED FORM",
    "8FINAL FORM|7YU ISOLATED FORM|8FINAL FORM|7E ISOLATED FORM|8FINAL FORM|8INITIAL FORM",
    "2UIGHUR KIRGHIZ YEH WITH HAMZA ABOVE WITH ALEF MAKSURA ISOLATED FORM",
    "9ALEF MAKSURA FINAL FORM|9ALEF MAKSURA INITIAL FORM|1LETTER FARSI YEH ISOLATED FORM",
    "4FINAL FORM|4INITIAL FORM|4MEDIAL FORM",
    "1LIGATURE YEH WITH HAMZA ABOVE WITH JEEM ISOLATED FORM|7HAH ISOLATED FORM",
    "7MEEM ISOLATED FORM|7ALEF MAKSURA ISOLATED FORM|7YEH ISOLATED FORM",
    "2BEH WITH JEEM ISOLATED FORM|4HAH ISOLATED FORM|4KHAH ISOLATED FORM|4MEEM ISOLATED FORM",
    "4ALEF MAKSURA ISOLATED FORM|4YEH ISOLATED FORM|2TEH WITH JEEM ISOLATED FORM",
    "4HAH ISOLATED FORM|4KHAH ISOLATED FORM|4MEEM ISOLATED FORM|4ALEF MAKSURA ISOLATED FORM",
    "4YEH ISOLATED FORM|2THEH WITH JEEM ISOLATED FORM|4MEEM ISOLATED FORM",
    "4ALEF MAKSURA ISOLATED FORM|4YEH ISOLATED FORM|2JEEM WITH HAH ISOLATED FORM",
    "4MEEM ISOLATED FORM|2HAH WITH JEEM ISOLATED FORM|4MEEM ISOLATED FORM",
    "2KHAH WITH JEEM ISOLATED FORM|4HAH ISOLATED FORM|4MEEM ISOLATED FORM",
    "2SEEN WITH JEEM ISOLATED FORM|4HAH ISOLATED FORM|4KHAH ISOLATED FORM|4MEEM ISOLATED FORM",
    "2SAD WITH HAH ISOLATED FORM|4MEEM ISOLATED FORM|2DAD WITH JEEM ISOLATED FORM",
    "4HAH ISOLATED FORM|4KHAH ISOLATED FORM|4MEEM ISOLATED FORM|2TAH WITH HAH ISOLATED FORM",
    "4MEEM ISOLATED FORM|2ZAH WITH MEEM ISOLATED FORM|2AIN WITH JEEM ISOLATED FORM",
    "4MEEM ISOLATED FORM|2GHAIN WITH JEEM ISOLATED FORM|4MEEM ISOLATED FORM",
    "2FEH WITH JEEM ISOLATED FORM|4HAH ISOLATED FORM|4KHAH ISOLATED FORM|4MEEM ISOLATED FORM",
    "4ALEF MAKSURA ISOLATED FORM|4YEH ISOLATED FORM|2QAF WITH HAH ISOLATED FORM",
    "4MEEM ISOLATED FORM|4ALEF MAKSURA ISOLATED FORM|4YEH ISOLATED FORM",
    "2KAF WITH ALEF ISOLATED FORM|4JEEM ISOLATED FORM|4HAH ISOLATED FORM|4KHAH ISOLATED FORM",
    "4LAM ISOLATED FORM|4MEEM ISOLATED FORM|4ALEF MAKSURA ISOLATED FORM|4YEH ISOLATED FORM",
    "2LAM WITH JEEM ISOLATED FORM|4HAH ISOLATED FORM|4KHAH ISOLATED FORM|4MEEM ISOLATED FORM",
    "4ALEF MAKSURA ISOLATED FORM|4YEH ISOLATED FORM|2MEEM WITH JEEM ISOLATED FORM",
    "4HAH ISOLATED FORM|4KHAH ISOLATED FORM|4MEEM ISOLATED FORM|4ALEF MAKSURA ISOLATED FORM",
    "4YEH ISOLATED FORM|2NOON WITH JEEM ISOLATED FORM|4HAH ISOLATED FORM|4KHAH ISOLATED FORM",
    "4MEEM ISOLATED FORM|4ALEF MAKSURA ISOLATED FORM|4YEH ISOLATED FORM",
    "2HEH WITH JEEM ISOLATED FORM|4MEEM ISOLATED FORM|4ALEF MAKSURA ISOLATED FORM",
    "4YEH ISOLATED FORM|2YEH WITH JEEM ISOLATED FORM|4HAH ISOLATED FORM|4KHAH ISOLATED FORM",
    "4MEEM ISOLATED FORM|4ALEF MAKSURA ISOLATED FORM|4YEH ISOLATED FORM",
    "2THAL WITH SUPERSCRIPT ALEF ISOLATED FORM|2REH WITH SUPERSCRIPT ALEF ISOLATED FORM",
    "2ALEF MAKSURA WITH SUPERSCRIPT ALEF ISOLATED FORM|2SHADDA WITH DAMMATAN ISOLATED FORM",
    "4KASRATAN ISOLATED FORM|4FATHA ISOLATED FORM|4DAMMA ISOLATED FORM|4KASRA ISOLATED FORM",
    "4SUPERSCRIPT ALEF ISOLATED FORM|2YEH WITH HAMZA ABOVE WITH REH FINAL FORM|7ZAIN FINAL FORM",
    "7MEEM FINAL FORM|7NOON FINAL FORM|7ALEF MAKSURA FINAL FORM|7YEH FINAL FORM",
    "2BEH WITH REH FINAL FORM|4ZAIN FINAL FORM|4MEEM FINAL FORM|4NOON FINAL FORM",
    "4ALEF MAKSURA FINAL FORM|4YEH FINAL FORM|2TEH WITH REH FINAL FORM|4ZAIN FINAL FORM",
    "4MEEM FINAL FORM|4NOON FINAL FORM|4ALEF MAKSURA FINAL FORM|4YEH FINAL FORM",
    "2THEH WITH REH FINAL FORM|4ZAIN FINAL FORM|4MEEM FINAL FORM|4NOON FINAL FORM",
    "4ALEF MAKSURA FINAL FORM|4YEH FINAL FORM|2FEH WITH ALEF MAKSURA FINAL FORM|4YEH FINAL FORM",
    "2QAF WITH ALEF MAKSURA FINAL FORM|4YEH FINAL FORM|2KAF WITH ALEF FINAL FORM|4LAM FINAL FORM",
    "4MEEM FINAL FORM|4ALEF MAKSURA FINAL FORM|4YEH FINAL FORM|2LAM WITH MEEM FINAL FORM",
    "4ALEF MAKSURA FINAL FORM|4YEH FINAL FORM|2MEEM WITH ALEF FINAL FORM|4MEEM FINAL FORM",
    "2NOON WITH REH FINAL FORM|4ZAIN FINAL FORM|4MEEM FINAL FORM|4NOON FINAL FORM",
    "4ALEF MAKSURA FINAL FORM|4YEH FINAL FORM|2ALEF MAKSURA WITH SUPERSCRIPT ALEF FINAL FORM",
    "2YEH WITH REH FINAL FORM|4ZAIN FINAL FORM|4MEEM FINAL FORM|4NOON FINAL FORM",
    "4ALEF MAKSURA FINAL FORM|4YEH FINAL FORM|4HAMZA ABOVE WITH JEEM INITIAL FORM",
    "7HAH INITIAL FORM|7KHAH INITIAL FORM|7MEEM INITIAL FORM|7HEH INITIAL FORM",
    "2BEH WITH JEEM INITIAL FORM|4HAH INITIAL FORM|4KHAH INITIAL FORM|4MEEM INITIAL FORM",
    "4HEH INITIAL FORM|2TEH WITH JEEM INITIAL FORM|4HAH INITIAL FORM|4KHAH INITIAL FORM",
    "4MEEM INITIAL FORM|4HEH INITIAL FORM|2THEH WITH MEEM INITIAL FORM",
    "2JEEM WITH HAH INITIAL FORM|4MEEM INITIAL FORM|2HAH WITH JEEM INITIAL FORM",
    "4MEEM INITIAL FORM|2KHAH WITH JEEM INITIAL FORM|4MEEM INITIAL FORM",
    "2SEEN WITH JEEM INITIAL FORM|4HAH INITIAL FORM|4KHAH INITIAL FORM|4MEEM INITIAL FORM",
    "2SAD WITH HAH INITIAL FORM|4KHAH INITIAL FORM|4MEEM INITIAL FORM|2DAD WITH JEEM INITIAL FORM",
    "4HAH INITIAL FORM|4KHAH INITIAL FORM|4MEEM INITIAL FORM|2TAH WITH HAH INITIAL FORM",
    "2ZAH WITH MEEM INITIAL FORM|2AIN WITH JEEM INITIAL FORM|4MEEM INITIAL FORM",
    "2GHAIN WITH JEEM INITIAL FORM|4MEEM INITIAL FORM|2FEH WITH JEEM INITIAL FORM",
    "4HAH INITIAL FORM|4KHAH INITIAL FORM|4MEEM INITIAL FORM|2QAF WITH HAH INITIAL FORM",
    "4MEEM INITIAL FORM|2KAF WITH JEEM INITIAL FORM|4HAH INITIAL FORM|4KHAH INITIAL FORM",
    "4LAM INITIAL FORM|4MEEM INITIAL FORM|2LAM WITH JEEM INITIAL FORM|4HAH INITIAL FORM",
    "4KHAH INITIAL FORM|4MEEM INITIAL FORM|4HEH INITIAL FORM|2MEEM WITH JEEM INITIAL FORM",
    "4HAH INITIAL FORM|4KHAH INITIAL FORM|4MEEM INITIAL FORM|2NOON WITH JEEM INITIAL FORM",
    "4HAH INITIAL FORM|4KHAH INITIAL FORM|4MEEM INITIAL FORM|4HEH INITIAL FORM",
    "2HEH WITH JEEM INITIAL FORM|4MEEM INITIAL FORM|4SUPERSCRIPT ALEF INITIAL FORM",
    "2YEH WITH JEEM INITIAL FORM|4HAH INITIAL FORM|4KHAH INITIAL FORM|4MEEM INITIAL FORM",
    "4HEH INITIAL FORM|4HAMZA ABOVE WITH MEEM MEDIAL FORM|7HEH MEDIAL FORM",
    "2BEH WITH MEEM MEDIAL FORM|4HEH MEDIAL FORM|2TEH WITH MEEM MEDIAL FORM|4HEH MEDIAL FORM",
    "2THEH WITH MEEM MEDIAL FORM|4HEH MEDIAL FORM|2SEEN WITH MEEM MEDIAL FORM|4HEH MEDIAL FORM",
    "2SHEEN WITH MEEM MEDIAL FORM|4HEH MEDIAL FORM|2KAF WITH LAM MEDIAL FORM|4MEEM MEDIAL FORM",
    "2LAM WITH MEEM MEDIAL FORM|2NOON WITH MEEM MEDIAL FORM|4HEH MEDIAL FORM",
    "2YEH WITH MEEM MEDIAL FORM|4HEH MEDIAL FORM|2SHADDA WITH FATHA MEDIAL FORM",
    "4DAMMA MEDIAL FORM|4KASRA MEDIAL FORM|2TAH WITH ALEF MAKSURA ISOLATED FORM",
    "4YEH ISOLATED FORM|2AIN WITH ALEF MAKSURA ISOLATED FORM|4YEH ISOLATED FORM",
    "2GHAIN WITH ALEF MAKSURA ISOLATED FORM|4YEH ISOLATED FORM",
    "2SEEN WITH ALEF MAKSURA ISOLATED FORM|4YEH ISOLATED FORM",
    "2SHEEN WITH ALEF MAKSURA ISOLATED FORM|4YEH ISOLATED FORM",
    "2HAH WITH ALEF MAKSURA ISOLATED FORM|4YEH ISOLATED FORM",
    "2JEEM WITH ALEF MAKSURA ISOLATED FORM|4YEH ISOLATED FORM",
    "2KHAH WITH ALEF MAKSURA ISOLATED FORM|4YEH ISOLATED FORM",
    "2SAD WITH ALEF MAKSURA ISOLATED FORM|4YEH ISOLATED FORM|2DAD WITH ALEF MAKSURA ISOLATED FORM",
    "4YEH ISOLATED FORM|2SHEEN WITH JEEM ISOLATED FORM|4HAH ISOLATED FORM|4KHAH ISOLATED FORM",
    "4MEEM ISOLATED FORM|4REH ISOLATED FORM|2SEEN WITH REH ISOLATED FORM",
    "2SAD WITH REH ISOLATED FORM|2DAD WITH REH ISOLATED FORM|2TAH WITH ALEF MAKSURA FINAL FORM",
    "4YEH FINAL FORM|2AIN WITH ALEF MAKSURA FINAL FORM|4YEH FINAL FORM",
    "2GHAIN WITH ALEF MAKSURA FINAL FORM|4YEH FINAL FORM|2SEEN WITH ALEF MAKSURA FINAL FORM",
    "4YEH FINAL FORM|2SHEEN WITH ALEF MAKSURA FINAL FORM|4YEH FINAL FORM",
    "2HAH WITH ALEF MAKSURA FINAL FORM|4YEH FINAL FORM|2JEEM WITH ALEF MAKSURA FINAL FORM",
    "4YEH FINAL FORM|2KHAH WITH ALEF MAKSURA FINAL FORM|4YEH FINAL FORM",
    "2SAD WITH ALEF MAKSURA FINAL FORM|4YEH FINAL FORM|2DAD WITH ALEF MAKSURA FINAL FORM",
    "4YEH FINAL FORM|2SHEEN WITH JEEM FINAL FORM|4HAH FINAL FORM|4KHAH FINAL FORM",
    "4MEEM FINAL FORM|4REH FINAL FORM|2SEEN WITH REH FINAL FORM|2SAD WITH REH FINAL FORM",
    "2DAD WITH REH FINAL FORM|2SHEEN WITH JEEM INITIAL FORM|4HAH INITIAL FORM|4KHAH INITIAL FORM",
    "4MEEM INITIAL FORM|2SEEN WITH HEH INITIAL FORM|2SHEEN WITH HEH INITIAL FORM",
    "2TAH WITH MEEM INITIAL FORM|2SEEN WITH JEEM MEDIAL FORM|4HAH MEDIAL FORM|4KHAH MEDIAL FORM",
    "2SHEEN WITH JEEM MEDIAL FORM|4HAH MEDIAL FORM|4KHAH MEDIAL FORM|2TAH WITH MEEM MEDIAL FORM",
    "2ZAH WITH MEEM MEDIAL FORM|2ALEF WITH FATHATAN FINAL FORM|5ISOLATED FORM",
    "ORNATE LEFT PARENTHESIS|1RIGHT PARENTHESIS|ARABIC LIGATURE RAHIMAHU ALLAAH|2RADI ALLAAHU ANH",
    "4ANHAA|4ANHUM|4ANHUMAA|4ANHUNNA|2SALLALLAAHU ALAYHI WA-AALIH|2ALAYHI AS-SALAAM",
    "2ALAYHIM AS-SALAAM|2ALAYHIMAA AS-SALAAM|2ALAYHI AS-SALAATU WAS-SALAAM|2QUDDISA SIRRAH",
    "2SALLALLAHU ALAYHI WAAALIHEE WA-SALLAM|2ALAYHAA AS-SALAAM|2TABAARAKA WA-TAAALAA",
    "2RAHIMAHUM ALLAAH|2TEH WITH JEEM WITH MEEM INITIAL FORM|4HAH WITH JEEM FINAL FORM",
    "7INITIAL FORM|6MEEM INITIAL FORM|4KHAH WITH MEEM INITIAL FORM|4MEEM WITH JEEM INITIAL FORM",
    "6HAH INITIAL FORM|6KHAH INITIAL FORM|2JEEM WITH MEEM WITH HAH FINAL FORM|7INITIAL FORM",
    "2HAH WITH MEEM WITH YEH FINAL FORM|6ALEF MAKSURA FINAL FORM",
    "2SEEN WITH HAH WITH JEEM INITIAL FORM|4JEEM WITH HAH INITIAL FORM|6ALEF MAKSURA FINAL FORM",
    "4MEEM WITH HAH FINAL FORM|7INITIAL FORM|6JEEM INITIAL FORM|6MEEM FINAL FORM|7INITIAL FORM",
    "2SAD WITH HAH WITH HAH FINAL FORM|7INITIAL FORM|4MEEM WITH MEEM FINAL FORM",
    "2SHEEN WITH HAH WITH MEEM FINAL FORM|7INITIAL FORM|4JEEM WITH YEH FINAL FORM",
    "4MEEM WITH KHAH FINAL FORM|7INITIAL FORM|6MEEM FINAL FORM|7INITIAL FORM",
    "2DAD WITH HAH WITH ALEF MAKSURA FINAL FORM|4KHAH WITH MEEM FINAL FORM|7INITIAL FORM",
    "2TAH WITH MEEM WITH HAH FINAL FORM|7INITIAL FORM|6MEEM INITIAL FORM|6YEH FINAL FORM",
    "2AIN WITH JEEM WITH MEEM FINAL FORM|4MEEM WITH MEEM FINAL FORM|7INITIAL FORM",
    "6ALEF MAKSURA FINAL FORM|2GHAIN WITH MEEM WITH MEEM FINAL FORM|6YEH FINAL FORM",
    "6ALEF MAKSURA FINAL FORM|2FEH WITH KHAH WITH MEEM FINAL FORM|7INITIAL FORM",
    "2QAF WITH MEEM WITH HAH FINAL FORM|6MEEM FINAL FORM|2LAM WITH HAH WITH MEEM FINAL FORM",
    "6YEH FINAL FORM|6ALEF MAKSURA FINAL FORM|4JEEM WITH JEEM INITIAL FORM|7FINAL FORM",
    "4KHAH WITH MEEM FINAL FORM|7INITIAL FORM|4MEEM WITH HAH FINAL FORM|7INITIAL FORM",
    "2MEEM WITH HAH WITH JEEM INITIAL FORM|6MEEM INITIAL FORM|6YEH FINAL FORM",
    "4JEEM WITH HAH INITIAL FORM|6MEEM INITIAL FORM|4KHAH WITH JEEM INITIAL FORM",
    "6MEEM INITIAL FORM"]),
  (0xFD92, [
    "ARABIC LIGATURE MEEM WITH JEEM WITH KHAH INITIAL FORM|2HEH WITH MEEM WITH JEEM INITIAL FORM",
    "6MEEM INITIAL FORM|2NOON WITH HAH WITH MEEM INITIAL FORM|6ALEF MAKSURA FINAL FORM",
    "4JEEM WITH MEEM FINAL FORM|7INITIAL FORM|6ALEF MAKSURA FINAL FORM|4MEEM WITH YEH FINAL FORM",
    "6ALEF MAKSURA FINAL FORM|2YEH WITH MEEM WITH MEEM FINAL FORM|7INITIAL FORM",
    "2BEH WITH KHAH WITH YEH FINAL FORM|2TEH WITH JEEM WITH YEH FINAL FORM",
    "6ALEF MAKSURA FINAL FORM|4KHAH WITH YEH FINAL FORM|6ALEF MAKSURA FINAL FORM",
    "4MEEM WITH YEH FINAL FORM|6ALEF MAKSURA FINAL FORM|2JEEM WITH MEEM WITH YEH FINAL FORM",
    "4HAH WITH ALEF MAKSURA FINAL FORM|4MEEM WITH ALEF MAKSURA FINAL FORM",
    "2SEEN WITH KHAH WITH ALEF MAKSURA FINAL FORM|2SAD WITH HAH WITH YEH FINAL FORM",
    "2SHEEN WITH HAH WITH YEH FINAL FORM|2DAD WITH HAH WITH YEH FINAL FORM",
    "2LAM WITH JEEM WITH YEH FINAL FORM|4MEEM WITH YEH FINAL FORM",
    "2YEH WITH HAH WITH YEH FINAL FORM|4JEEM WITH YEH FINAL FORM|4MEEM WITH YEH FINAL FORM",
    "2MEEM WITH MEEM WITH YEH FINAL FORM|2QAF WITH MEEM WITH YEH FINAL FORM",
    "2NOON WITH HAH WITH YEH FINAL FORM|2QAF WITH MEEM WITH HAH INITIAL FORM",
    "2LAM WITH HAH WITH MEEM INITIAL FORM|2AIN WITH MEEM WITH YEH FINAL FORM",
    "2KAF WITH MEEM WITH YEH FINAL FORM|2NOON WITH JEEM WITH HAH INITIAL FORM",
    "2MEEM WITH KHAH WITH YEH FINAL FORM|2LAM WITH JEEM WITH MEEM INITIAL FORM",
    "2KAF WITH MEEM WITH MEEM FINAL FORM|2LAM WITH JEEM WITH MEEM FINAL FORM",
    "2NOON WITH JEEM WITH HAH FINAL FORM|2JEEM WITH HAH WITH YEH FINAL FORM",
    "2HAH WITH JEEM WITH YEH FINAL FORM|2MEEM WITH JEEM WITH YEH FINAL FORM",
    "2FEH WITH MEEM WITH YEH FINAL FORM|2BEH WITH HAH WITH YEH FINAL FORM",
    "2KAF WITH MEEM WITH MEEM INITIAL FORM|2AIN WITH JEEM WITH MEEM INITIAL FORM",
    "2SAD WITH MEEM WITH MEEM INITIAL FORM|2SEEN WITH KHAH WITH YEH FINAL FORM",
    "2NOON WITH JEEM WITH YEH FINAL FORM"]),
  (0xFDCF, ["ARABIC LIGATURE SALAAMUHU ALAYNAA"]),
  (0xFDF0, [
    "ARABIC LIGATURE SALLA USED AS KORANIC STOP SIGN ISOLATED FORM",
    "2QALA USED AS KORANIC STOP SIGN ISOLATED FORM|2ALLAH ISOLATED FORM|2AKBAR ISOLATED FORM",
    "2MOHAMMAD ISOLATED FORM|2SALAM ISOLATED FORM|2RASOUL ISOLATED FORM|2ALAYHE ISOLATED FORM",
    "2WASALLAM ISOLATED FORM|2SALLA ISOLATED FORM|2SALLALLAHOU ALAYHE WASALLAM|2JALLAJALALOUHOU",
    "RIAL SIGN|ARABIC LIGATURE BISMILLAH AR-RAHMAN AR-RAHEEM|2SUBHAANAHU WA TAAALAA|2AZZA WA JALL",
    "VARIATION SELECTOR-1|1SELECTOR-2|1SELECTOR-3|1SELECTOR-4|1SELECTOR-5|1SELECTOR-6|1SELECTOR-7",
    "1SELECTOR-8|1SELECTOR-9|1SELECTOR-10|1SELECTOR-11|1SELECTOR-12|1SELECTOR-13|1SELECTOR-14",
    "1SELECTOR-15|1SELECTOR-16|PRESENTATION FORM FOR VERTICAL COMMA|4IDEOGRAPHIC COMMA|5FULL STOP",
    "4COLON|4SEMICOLON|4EXCLAMATION MARK|4QUESTION MARK|4LEFT WHITE LENTICULAR BRACKET",
    "4RIGHT WHITE LENTICULAR BRAKCET|4HORIZONTAL ELLIPSIS"]),
  (0xFE20, [
    "COMBINING LIGATURE LEFT HALF|2RIGHT HALF|1DOUBLE TILDE LEFT HALF|3RIGHT HALF",
    "1MACRON LEFT HALF|2RIGHT HALF|1CONJOINING MACRON|1LIGATURE LEFT HALF BELOW|2RIGHT HALF BELOW",
    "1TILDE LEFT HALF BELOW|2RIGHT HALF BELOW|1MACRON LEFT HALF BELOW|2RIGHT HALF BELOW",
    "1CONJOINING MACRON BELOW|1CYRILLIC TITLO LEFT HALF|3RIGHT HALF",
    "PRESENTATION FORM FOR VERTICAL TWO DOT LEADER|4EM DASH|4EN DASH|4LOW LINE|4WAVY LOW LINE",
    "4LEFT PARENTHESIS|4RIGHT PARENTHESIS|4LEFT CURLY BRACKET|4RIGHT CURLY BRACKET",
    "4LEFT TORTOISE SHELL BRACKET|4RIGHT TORTOISE SHELL BRACKET|4LEFT BLACK LENTICULAR BRACKET",
    "4RIGHT BLACK LENTICULAR BRACKET|4LEFT DOUBLE ANGLE BRACKET|4RIGHT DOUBLE ANGLE BRACKET",
    "4LEFT ANGLE BRACKET|4RIGHT ANGLE BRACKET|4LEFT CORNER BRACKET|4RIGHT CORNER BRACKET",
    "4LEFT WHITE CORNER BRACKET|4RIGHT WHITE CORNER BRACKET|SESAME DOT|WHITE SESAME DOT",
    "PRESENTATION FORM FOR VERTICAL LEFT SQUARE BRACKET|4RIGHT SQUARE BRACKET|DASHED OVERLINE",
    "CENTRELINE OVERLINE|WAVY OVERLINE|DOUBLE WAVY OVERLINE|DASHED LOW LINE|CENTRELINE LOW LINE",
    "WAVY LOW LINE|SMALL COMMA|1IDEOGRAPHIC COMMA|1FULL STOP"]),
  (0xFE54, [
    "SMALL SEMICOLON|1COLON|1QUESTION MARK|1EXCLAMATION MARK|1EM DASH|1LEFT PARENTHESIS",
    "1RIGHT PARENTHESIS|1LEFT CURLY BRACKET|1RIGHT CURLY BRACKET|1LEFT TORTOISE SHELL BRACKET",
    "1RIGHT TORTOISE SHELL BRACKET|1NUMBER SIGN|1AMPERSAND|1ASTERISK|1PLUS SIGN|1HYPHEN-MINUS",
    "1LESS-THAN SIGN|1GREATER-THAN SIGN|1EQUALS SIGN"]),
  (0xFE68, ["SMALL REVERSE SOLIDUS|1DOLLAR SIGN|1PERCENT SIGN|1COMMERCIAL AT"]),
  (0xFE70, [
    "ARABIC FATHATAN ISOLATED FORM|1TATWEEL WITH FATHATAN ABOVE|1DAMMATAN ISOLATED FORM",
    "1TAIL FRAGMENT|1KASRATAN ISOLATED FORM"]),
  (0xFE76, [
    "ARABIC FATHA ISOLATED FORM|2MEDIAL FORM|1DAMMA ISOLATED FORM|2MEDIAL FORM",
    "1KASRA ISOLATED FORM|2MEDIAL FORM|1SHADDA ISOLATED FORM|2MEDIAL FORM|1SUKUN ISOLATED FORM",
    "2MEDIAL FORM|1LETTER HAMZA ISOLATED FORM|2ALEF WITH MADDA ABOVE ISOLATED FORM|6FINAL FORM",
    "4HAMZA ABOVE ISOLATED FORM|6FINAL FORM|2WAW WITH HAMZA ABOVE ISOLATED FORM|6FINAL FORM",
    "2ALEF WITH HAMZA BELOW ISOLATED FORM|6FINAL FORM|2YEH WITH HAMZA ABOVE ISOLATED FORM",
    "6FINAL FORM|6INITIAL FORM|6MEDIAL FORM|2ALEF ISOLATED FORM|3FINAL FORM|2BEH ISOLATED FORM",
    "3FINAL FORM|3INITIAL FORM|3MEDIAL FORM|2TEH MARBUTA ISOLATED FORM|4FINAL FORM|3ISOLATED FORM",
    "3FINAL FORM|3INITIAL FORM|3MEDIAL FORM|2THEH ISOLATED FORM|3FINAL FORM|3INITIAL FORM",
    "3MEDIAL FORM|2JEEM ISOLATED FORM|3FINAL FORM|3INITIAL FORM|3MEDIAL FORM|2HAH ISOLATED FORM",
    "3FINAL FORM|3INITIAL FORM|3MEDIAL FORM|2KHAH ISOLATED FORM|3FINAL FORM|3INITIAL FORM",
    "3MEDIAL FORM|2DAL ISOLATED FORM|3FINAL FORM|2THAL ISOLATED FORM|3FINAL FORM",
    "2REH ISOLATED FORM|3FINAL FORM|2ZAIN ISOLATED FORM|3FINAL FORM|2SEEN ISOLATED FORM",
    "3FINAL FORM|3INITIAL FORM|3MEDIAL FORM|2SHEEN ISOLATED FORM|3FINAL FORM|3INITIAL FORM",
    "3MEDIAL FORM|2SAD ISOLATED FORM|3FINAL FORM|3INITIAL FORM|3MEDIAL FORM|2DAD ISOLATED FORM",
    "3FINAL FORM|3INITIAL FORM|3MEDIAL FORM|2TAH ISOLATED FORM|3FINAL FORM|3INITIAL FORM",
    "3MEDIAL FORM|2ZAH ISOLATED FORM|3FINAL FORM|3INITIAL FORM|3MEDIAL FORM|2AIN ISOLATED FORM",
    "3FINAL FORM|3INITIAL FORM|3MEDIAL FORM|2GHAIN ISOLATED FORM|3FINAL FORM|3INITIAL FORM",
    "3MEDIAL FORM|2FEH ISOLATED FORM|3FINAL FORM|3INITIAL FORM|3MEDIAL FORM|2QAF ISOLATED FORM",
    "3FINAL FORM|3INITIAL FORM|3MEDIAL FORM|2KAF ISOLATED FORM|3FINAL FORM|3INITIAL FORM",
    "3MEDIAL FORM|2LAM ISOLATED FORM|3FINAL FORM|3INITIAL FORM|3MEDIAL FORM|2MEEM ISOLATED FORM",
    "3FINAL FORM|3INITIAL FORM|3MEDIAL FORM|2NOON ISOLATED FORM|3FINAL FORM|3INITIAL FORM",
    "3MEDIAL FORM|2HEH ISOLATED FORM|3FINAL FORM|3INITIAL FORM|3MEDIAL FORM|2WAW ISOLATED FORM",
    "3FINAL FORM|2ALEF MAKSURA ISOLATED FORM|4FINAL FORM|2YEH ISOLATED FORM|3FINAL FORM",
    "3INITIAL FORM|3MEDIAL FORM|1LIGATURE LAM WITH ALEF WITH MADDA ABOVE ISOLATED FORM",
    "8FINAL FORM|6HAMZA ABOVE ISOLATED FORM|8FINAL FORM|7BELOW ISOLATED FORM|8FINAL FORM",
    "5ISOLATED FORM|5FINAL FORM"]),
  (0xFEFF, ["ZERO WIDTH NO-BREAK SPACE"]),
  (0xFF01, [
    "FULLWIDTH EXCLAMATION MARK|1QUOTATION MARK|1NUMBER SIGN|1DOLLAR SIGN|1PERCENT SIGN",
    "1AMPERSAND|1APOSTROPHE|1LEFT PARENTHESIS|1RIGHT PARENTHESIS|1ASTERISK|1PLUS SIGN|1COMMA",
    "1HYPHEN-MINUS|1FULL STOP|1SOLIDUS|1DIGIT ZERO|2ONE|2TWO|2THREE|2FOUR|2FIVE|2SIX|2SEVEN",
    "2EIGHT|2NINE|1COLON|1SEMICOLON|1LESS-THAN SIGN|1EQUALS SIGN|1GREATER-THAN SIGN",
    "1QUESTION MARK|1COMMERCIAL AT|1LATIN CAPITAL LETTER A|4B|4C|4D|4E|4F|4G|4H|4I|4J|4K|4L|4M|4N",
    "4O|4P|4Q|4R|4S|4T|4U|4V|4W|4X|4Y|4Z|1LEFT SQUARE BRACKET|1REVERSE SOLIDUS",
    "1RIGHT SQUARE BRACKET|1CIRCUMFLEX ACCENT|1LOW LINE|1GRAVE ACCENT|1LATIN SMALL LETTER A|4B|4C",
    "4D|4E|4F|4G|4H|4I|4J|4K|4L|4M|4N|4O|4P|4Q|4R|4S|4T|4U|4V|4W|4X|4Y|4Z|1LEFT CURLY BRACKET",
    "1VERTICAL LINE|1RIGHT CURLY BRACKET|1TILDE|1LEFT WHITE PARENTHESIS|1RIGHT WHITE PARENTHESIS",
    "HALFWIDTH IDEOGRAPHIC FULL STOP|1LEFT CORNER BRACKET|1RIGHT CORNER BRACKET",
    "1IDEOGRAPHIC COMMA|1KATAKANA MIDDLE DOT|2LETTER WO|3SMALL A|4I|4U|4E|4O|4YA|4YU|4YO|4TU",
    "1KATAKANA-HIRAGANA PROLONGED SOUND MARK|1KATAKANA LETTER A|3I|3U|3E|3O|3KA|3KI|3KU|3KE|3KO",
    "3SA|3SI|3SU|3SE|3SO|3TA|3TI|3TU|3TE|3TO|3NA|3NI|3NU|3NE|3NO|3HA|3HI|3HU|3HE|3HO|3MA|3MI|3MU",
    "3ME|3MO|3YA|3YU|3YO|3RA|3RI|3RU|3RE|3RO|3WA|3N|2VOICED SOUND MARK|2SEMI-VOICED SOUND MARK",
    "1HANGUL FILLER|2LETTER KIYEOK|3SSANGKIYEOK|3KIYEOK-SIOS|3NIEUN|3NIEUN-CIEUC|3NIEUN-HIEUH",
    "3TIKEUT|3SSANGTIKEUT|3RIEUL|3RIEUL-KIYEOK|3RIEUL-MIEUM|3RIEUL-PIEUP|3RIEUL-SIOS",
    "3RIEUL-THIEUTH|3RIEUL-PHIEUPH|3RIEUL-HIEUH|3MIEUM|3PIEUP|3SSANGPIEUP|3PIEUP-SIOS|3SIOS",
    "3SSANGSIOS|3IEUNG|3CIEUC|3SSANGCIEUC|3CHIEUCH|3KHIEUKH|3THIEUTH|3PHIEUPH|3HIEUH"]),
  (0xFFC2, ["HALFWIDTH HANGUL LETTER A|3AE|3YA|3YAE|3EO|3E"]),
  (0xFFCA, ["HALFWIDTH HANGUL LETTER YEO|3YE|3O|3WA|3WAE|3OE"]),
  (0xFFD2, ["HALFWIDTH HANGUL LETTER YO|3U|3WEO|3WE|3WI|3YU"]),
  (0xFFDA, ["HALFWIDTH HANGUL LETTER EU|3YI|3I"]),
  (0xFFE0, [
    "FULLWIDTH CENT SIGN|1POUND SIGN|1NOT SIGN|1MACRON|1BROKEN BAR|1YEN SIGN|1WON SIGN"]),
  (0xFFE8, [
    "HALFWIDTH FORMS LIGHT VERTICAL|1LEFTWARDS ARROW|1UPWARDS ARROW|1RIGHTWARDS ARROW",
    "1DOWNWARDS ARROW|1BLACK SQUARE|1WHITE CIRCLE"]),
  (0xFFF9, [
    "INTERLINEAR ANNOTATION ANCHOR|2SEPARATOR|2TERMINATOR|OBJECT REPLACEMENT CHARACTER",
    "REPLACEMENT CHARACTER"])]

end Forwarding.Text.CharacterName
