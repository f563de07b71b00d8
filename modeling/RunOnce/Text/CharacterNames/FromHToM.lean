/-!
# Names of characters from H to M

The names of characters that start with these letters, as trees of words: in
brackets after a word stand the words that may follow it, and a star among these
says that a name may end there.
-/

namespace RunOnce.Text

/-- The names that start with H. -/
def characterNamesH : List String := [
  "HADES HAIR(SPACE) HAIRCUT HALFWIDTH(BLACK(SQUARE) DOWNWARDS(ARROW) FORMS(LIGHT(VERTICAL))",
  "HANGUL(FILLER LETTER(A AE CHIEUCH CIEUC E EO EU HIEUH I IEUNG KHIEUKH KIYEOK KIYEOK-SIOS",
  "MIEUM NIEUN NIEUN-CIEUC NIEUN-HIEUH O OE PHIEUPH PIEUP PIEUP-SIOS RIEUL RIEUL-HIEUH",
  "RIEUL-KIYEOK RIEUL-MIEUM RIEUL-PHIEUPH RIEUL-PIEUP RIEUL-SIOS RIEUL-THIEUTH SIOS SSANGCIEUC",
  "SSANGKIYEOK SSANGPIEUP SSANGSIOS SSANGTIKEUT THIEUTH TIKEUT U WA WAE WE WEO WI YA YAE YE YEO",
  "YI YO YU)) IDEOGRAPHIC(COMMA FULL(STOP)) KATAKANA(LETTER(A E HA HE HI HO HU I KA KE KI KO KU",
  "MA ME MI MO MU N NA NE NI NO NU O RA RE RI RO RU SA SE SI SMALL(A E I O TU U YA YO YU) SO SU",
  "TA TE TI TO TU U WA WO YA YO YU) MIDDLE(DOT) SEMI-VOICED(SOUND(MARK)) VOICED(SOUND(MARK)))",
  "KATAKANA-HIRAGANA(PROLONGED(SOUND(MARK))) LEFT(CORNER(BRACKET)) LEFTWARDS(ARROW)",
  "RIGHT(CORNER(BRACKET)) RIGHTWARDS(ARROW) UPWARDS(ARROW) WHITE(CIRCLE)) HAMBURGER HAMMER(*",
  "AND(PICK SICKLE WRENCH)) HAMSA HAMSTER(FACE) HAND(WITH(INDEX(AND(MIDDLE(FINGERS(CROSSED)))",
  "FINGER(AND(THUMB(CROSSED)))))) HANDBAG HANDBALL HANDSHAKE HANGUL(CHOSEONG(CEONGCHIEUMCHIEUCH",
  "CEONGCHIEUMCIEUC CEONGCHIEUMSIOS CEONGCHIEUMSSANGCIEUC CEONGCHIEUMSSANGSIOS CHIEUCH",
  "CHIEUCH-HIEUH CHIEUCH-KHIEUKH CHITUEUMCHIEUCH CHITUEUMCIEUC CHITUEUMSIOS CHITUEUMSSANGCIEUC",
  "CHITUEUMSSANGSIOS CIEUC CIEUC-IEUNG FILLER HIEUH HIEUH-SIOS IEUNG IEUNG-CHIEUCH IEUNG-CIEUC",
  "IEUNG-HIEUH IEUNG-KIYEOK IEUNG-MIEUM IEUNG-PANSIOS IEUNG-PHIEUPH IEUNG-PIEUP IEUNG-RIEUL",
  "IEUNG-SIOS IEUNG-THIEUTH IEUNG-TIKEUT KAPYEOUNMIEUM KAPYEOUNPHIEUPH KAPYEOUNPIEUP",
  "KAPYEOUNRIEUL KAPYEOUNSSANGPIEUP KHIEUKH KIYEOK KIYEOK-TIKEUT MIEUM MIEUM-KIYEOK MIEUM-PIEUP",
  "MIEUM-SIOS MIEUM-TIKEUT NIEUN NIEUN-CIEUC NIEUN-HIEUH NIEUN-KIYEOK NIEUN-PIEUP NIEUN-SIOS",
  "NIEUN-TIKEUT PANSIOS PHIEUPH PHIEUPH-HIEUH PHIEUPH-PIEUP PIEUP PIEUP-CHIEUCH PIEUP-CIEUC",
  "PIEUP-HIEUH PIEUP-KHIEUKH PIEUP-KIYEOK PIEUP-NIEUN PIEUP-PHIEUPH PIEUP-SIOS PIEUP-SIOS-CIEUC",
  "PIEUP-SIOS-KIYEOK PIEUP-SIOS-PIEUP PIEUP-SIOS-THIEUTH PIEUP-SIOS-TIKEUT PIEUP-SSANGSIOS",
  "PIEUP-THIEUTH PIEUP-TIKEUT RIEUL RIEUL-CIEUC RIEUL-HIEUH RIEUL-KAPYEOUNPIEUP RIEUL-KHIEUKH",
  "RIEUL-KIYEOK RIEUL-MIEUM RIEUL-NIEUN RIEUL-PIEUP RIEUL-SIOS RIEUL-SSANGKIYEOK",
  "RIEUL-SSANGPIEUP RIEUL-SSANGTIKEUT RIEUL-TIKEUT SIOS SIOS-CHIEUCH SIOS-CIEUC SIOS-HIEUH",
  "SIOS-IEUNG SIOS-KHIEUKH SIOS-KIYEOK SIOS-MIEUM SIOS-NIEUN SIOS-PHIEUPH SIOS-PIEUP",
  "SIOS-PIEUP-KIYEOK SIOS-RIEUL SIOS-SSANGSIOS SIOS-THIEUTH SIOS-TIKEUT SSANGCIEUC",
  "SSANGCIEUC-HIEUH SSANGHIEUH SSANGIEUNG SSANGKIYEOK SSANGNIEUN SSANGPIEUP SSANGRIEUL SSANGSIOS",
  "SSANGSIOS-PIEUP SSANGTHIEUTH SSANGTIKEUT SSANGYEORINHIEUH THIEUTH TIKEUT TIKEUT-CIEUC",
  "TIKEUT-KIYEOK TIKEUT-MIEUM TIKEUT-PIEUP TIKEUT-RIEUL TIKEUT-SIOS YEORINHIEUH YESIEUNG)",
  "DOUBLE(DOT(TONE(MARK))) FILLER JONGSEONG(CHIEUCH CIEUC CIEUC-PIEUP CIEUC-SSANGPIEUP HIEUH",
  "HIEUH-MIEUM HIEUH-NIEUN HIEUH-PIEUP HIEUH-RIEUL IEUNG IEUNG-KHIEUKH IEUNG-KIYEOK",
  "IEUNG-SSANGKIYEOK KAPYEOUNMIEUM KAPYEOUNPHIEUPH KAPYEOUNPIEUP KAPYEOUNRIEUL KHIEUKH KIYEOK",
  "KIYEOK-CHIEUCH KIYEOK-HIEUH KIYEOK-KHIEUKH KIYEOK-NIEUN KIYEOK-PIEUP KIYEOK-RIEUL KIYEOK-SIOS",
  "KIYEOK-SIOS-KIYEOK MIEUM MIEUM-CHIEUCH MIEUM-CIEUC MIEUM-HIEUH MIEUM-KIYEOK MIEUM-NIEUN",
  "MIEUM-PANSIOS MIEUM-PIEUP MIEUM-PIEUP-SIOS MIEUM-RIEUL MIEUM-SIOS MIEUM-SSANGNIEUN",
  "MIEUM-SSANGSIOS NIEUN NIEUN-CHIEUCH NIEUN-CIEUC NIEUN-HIEUH NIEUN-KIYEOK NIEUN-PANSIOS",
  "NIEUN-RIEUL NIEUN-SIOS NIEUN-THIEUTH NIEUN-TIKEUT PANSIOS PANSIOS-KAPYEOUNPIEUP PANSIOS-PIEUP",
  "PHIEUPH PHIEUPH-PIEUP PHIEUPH-SIOS PHIEUPH-THIEUTH PIEUP PIEUP-CHIEUCH PIEUP-CIEUC",
  "PIEUP-HIEUH PIEUP-MIEUM PIEUP-PHIEUPH PIEUP-RIEUL PIEUP-RIEUL-PHIEUPH PIEUP-SIOS",
  "PIEUP-SIOS-TIKEUT PIEUP-TIKEUT RIEUL RIEUL-HIEUH RIEUL-KAPYEOUNPIEUP RIEUL-KHIEUKH",
  "RIEUL-KIYEOK RIEUL-KIYEOK-HIEUH RIEUL-KIYEOK-SIOS RIEUL-MIEUM RIEUL-MIEUM-HIEUH",
  "RIEUL-MIEUM-KIYEOK RIEUL-MIEUM-SIOS RIEUL-NIEUN RIEUL-PANSIOS RIEUL-PHIEUPH RIEUL-PIEUP",
  "RIEUL-PIEUP-HIEUH RIEUL-PIEUP-PHIEUPH RIEUL-PIEUP-SIOS RIEUL-PIEUP-TIKEUT RIEUL-SIOS",
  "RIEUL-SSANGKIYEOK RIEUL-SSANGSIOS RIEUL-THIEUTH RIEUL-TIKEUT RIEUL-TIKEUT-HIEUH",
  "RIEUL-YEORINHIEUH RIEUL-YEORINHIEUH-HIEUH RIEUL-YESIEUNG SIOS SIOS-CHIEUCH SIOS-CIEUC",
  "SIOS-HIEUH SIOS-KAPYEOUNPIEUP SIOS-KIYEOK SIOS-MIEUM SIOS-PANSIOS SIOS-PIEUP SIOS-RIEUL",
  "SIOS-THIEUTH SIOS-TIKEUT SSANGCIEUC SSANGIEUNG SSANGKIYEOK SSANGMIEUM SSANGNIEUN SSANGPIEUP",
  "SSANGRIEUL SSANGRIEUL-KHIEUKH SSANGSIOS SSANGSIOS-KIYEOK SSANGSIOS-TIKEUT SSANGTIKEUT",
  "SSANGTIKEUT-PIEUP SSANGYESIEUNG THIEUTH TIKEUT TIKEUT-CHIEUCH TIKEUT-CIEUC TIKEUT-KIYEOK",
  "TIKEUT-PIEUP TIKEUT-RIEUL TIKEUT-SIOS TIKEUT-SIOS-KIYEOK TIKEUT-THIEUTH YEORINHIEUH YESIEUNG",
  "YESIEUNG-HIEUH YESIEUNG-KHIEUKH YESIEUNG-KIYEOK YESIEUNG-MIEUM YESIEUNG-PANSIOS YESIEUNG-SIOS",
  "YESIEUNG-SSANGKIYEOK) JUNGSEONG(A A-EU A-O A-U AE ARAEA ARAEA-A ARAEA-E ARAEA-EO ARAEA-I",
  "ARAEA-U E EO EO-EU EO-O EO-U EU EU-A EU-E EU-EO EU-EU EU-O EU-U FILLER I I-A I-ARAEA I-EU I-I",
  "I-O I-O-I I-U I-YA I-YA-O I-YAE I-YE I-YEO I-YO I-YU O O-E O-EO O-O O-O-I O-U O-YA O-YAE O-YE",
  "O-YEO OE SSANGARAEA U U-A U-AE U-EO-EU U-I-I U-U U-YE U-YEO WA WAE WE WEO WI YA YA-O YA-U",
  "YA-YO YAE YE YEO YEO-O YEO-U YEO-YA YI YI-U YO YO-A YO-AE YO-EO YO-I YO-O YO-YA YO-YAE YO-YEO",
  "YU YU-A YU-AE YU-E YU-EO YU-I YU-O YU-U YU-YE YU-YEO) LETTER(A AE ARAEA ARAEAE CHIEUCH CIEUC",
  "E EO EU HIEUH I IEUNG KAPYEOUNMIEUM KAPYEOUNPHIEUPH KAPYEOUNPIEUP KAPYEOUNSSANGPIEUP KHIEUKH",
  "KIYEOK KIYEOK-SIOS MIEUM MIEUM-PANSIOS MIEUM-PIEUP MIEUM-SIOS NIEUN NIEUN-CIEUC NIEUN-HIEUH",
  "NIEUN-PANSIOS NIEUN-SIOS NIEUN-TIKEUT O OE PANSIOS PHIEUPH PIEUP PIEUP-CIEUC PIEUP-KIYEOK",
  "PIEUP-SIOS PIEUP-SIOS-KIYEOK PIEUP-SIOS-TIKEUT PIEUP-THIEUTH PIEUP-TIKEUT RIEUL RIEUL-HIEUH",
  "RIEUL-KIYEOK RIEUL-KIYEOK-SIOS RIEUL-MIEUM RIEUL-PANSIOS RIEUL-PHIEUPH RIEUL-PIEUP",
  "RIEUL-PIEUP-SIOS RIEUL-SIOS RIEUL-THIEUTH RIEUL-TIKEUT RIEUL-YEORINHIEUH SIOS SIOS-CIEUC",
  "SIOS-KIYEOK SIOS-NIEUN SIOS-PIEUP SIOS-TIKEUT SSANGCIEUC SSANGHIEUH SSANGIEUNG SSANGKIYEOK",
  "SSANGNIEUN SSANGPIEUP SSANGSIOS SSANGTIKEUT THIEUTH TIKEUT U WA WAE WE WEO WI YA YAE YE YEO",
  "YEORINHIEUH YESIEUNG YESIEUNG-PANSIOS YESIEUNG-SIOS YI YO YO-I YO-YA YO-YAE YU YU-I YU-YE",
  "YU-YEO) SINGLE(DOT(TONE(MARK)))) HANGZHOU(NUMERAL(EIGHT FIVE FOUR NINE ONE SEVEN SIX TEN",
  "THIRTY THREE TWENTY TWO)) HANIFI(ROHINGYA(DIGIT(EIGHT FIVE FOUR NINE ONE SEVEN SIX THREE TWO",
  "ZERO) LETTER(A BA CA DA DDA FA GA HA JA KA KHA KINNA(WA YA) LA MA NA NGA NYA PA RA RRA SA SHA",
  "TA TTA VA WA YA ZA) MARK(NA(KHONNA) SAKIN) SIGN(HARBAHAY TAHALA TANA TASSI) VOWEL(A E I O",
  "U))) HANUNOO(LETTER(A BA DA GA HA I KA LA MA NA NGA PA RA SA TA U WA YA) SIGN(PAMUDPOD)",
  "VOWEL(SIGN(I U))) HAPPY(PERSON(RAISING(ONE(HAND)))) HARD(DISK) HATCHING(CHICK)",
  "HATRAN(LETTER(ALEPH AYN BETH DALETH-RESH GIMEL HE HETH KAPH LAMEDH MEM NUN PE QOPH SADHE",
  "SAMEKH SHIN TAW TETH WAW YODH ZAYN) NUMBER(FIVE ONE(* HUNDRED) TEN TWENTY)) HEADPHONE",
  "HEADSTONE(* GRAVEYARD(SYMBOL)) HEAR-NO-EVIL(MONKEY) HEART(DECORATION HANDS WITH(ARROW RIBBON",
  "TIP(ON(THE(LEFT))))) HEAVY(AMPERSAND(ORNAMENT) ARROW(SHAFT(WIDTH(ONE(* HALF THIRD)",
  "TWO(THIRDS)))) ASTERISK BALLOT(X) BLACK(CURVED(DOWNWARDS(AND(RIGHTWARDS(ARROW)))",
  "UPWARDS(AND(RIGHTWARDS(ARROW)))) HEART) BLACK-FEATHERED(NORTH(EAST(ARROW)) RIGHTWARDS(ARROW)",
  "SOUTH(EAST(ARROW))) CHECK(MARK) CHEVRON(SNOWFLAKE) CIRCLE(* WITH(CIRCLE(INSIDE)",
  "STROKE(AND(TWO(DOTS(ABOVE)))))) CIRCLED(SALTIRE) CONCAVE-POINTED(BLACK(RIGHTWARDS(ARROW)))",
  "DASHED(TRIANGLE-HEADED(RIGHTWARDS(ARROW))) DIVISION(SIGN) DOLLAR(SIGN)",
  "DOUBLE(COMMA(QUOTATION(MARK(ORNAMENT))) TURNED(COMMA(QUOTATION(MARK(ORNAMENT)))))",
  "DOWNWARDS(ARROW(WITH(EQUILATERAL(ARROWHEAD) LARGE(EQUILATERAL(ARROWHEAD)))))",
  "EIGHT(POINTED(BLACK(STAR) PINWHEEL(STAR) RECTILINEAR(BLACK(STAR))) SPOKED(ASTERISK)",
  "TEARDROP-SPOKED(PROPELLER(ASTERISK))) EQUALS(SIGN) EXCLAMATION(MARK(ORNAMENT SYMBOL))",
  "FIVE(POINTED(BLACK(STAR)) SPOKED(ASTERISK)) FOUR(BALLOON-SPOKED(ASTERISK)) GREEK(CROSS)",
  "HEART(EXCLAMATION(MARK(ORNAMENT))) HORIZONTAL(FILL) INTERROBANG(ORNAMENT) LARGE(CIRCLE)",
  "LATIN(CROSS) LEFT-POINTING(ANGLE(BRACKET(ORNAMENT) QUOTATION(MARK(ORNAMENT))))",
  "LEFTWARDS(ARROW(WITH(EQUILATERAL(ARROWHEAD) LARGE(EQUILATERAL(ARROWHEAD)))))",
  "LIGATURE(OPEN(ET(ORNAMENT))) LOW(DOUBLE(COMMA(QUOTATION(MARK(ORNAMENT))))",
  "SINGLE(COMMA(QUOTATION(MARK(ORNAMENT))))) LOWER(RIGHT-SHADOWED(WHITE(RIGHTWARDS(ARROW))))",
  "MINUS(SIGN) MULTIPLICATION(X) NORTH(EAST(ARROW POINTING(BUD VINE(LEAF))) WEST(POINTING(BUD",
  "VINE(LEAF)))) OPEN(CENTRE(CROSS)) OUTLINED(BLACK(STAR)) OVAL(WITH(OVAL(INSIDE))) PLUS(SIGN)",
  "RIGHT-POINTING(ANGLE(BRACKET(ORNAMENT) QUOTATION(MARK(ORNAMENT)))) RIGHTWARDS(ARROW(*",
  "WITH(EQUILATERAL(ARROWHEAD) LARGE(EQUILATERAL(ARROWHEAD))))) ROUND-TIPPED(RIGHTWARDS(ARROW))",
  "SALTIRE SANS-SERIF(INTERROBANG(ORNAMENT)) SCRIPT(LIGATURE(ET(ORNAMENT)))",
  "SINGLE(COMMA(QUOTATION(MARK(ORNAMENT))) TURNED(COMMA(QUOTATION(MARK(ORNAMENT)))))",
  "SIX(POINTED(BLACK(STAR)) SPOKED(ASTERISK)) SOUTH(EAST(ARROW POINTING(BUD VINE(LEAF)))",
  "WEST(POINTING(BUD VINE(LEAF)))) SPARKLE TEARDROP-SHANKED(RIGHTWARDS(ARROW))",
  "TEARDROP-SPOKED(ASTERISK PINWHEEL(ASTERISK)) TRIANGLE-HEADED(RIGHTWARDS(ARROW))",
  "TWELVE(POINTED(BLACK(STAR) PINWHEEL(STAR))) UPPER(RIGHT-SHADOWED(WHITE(RIGHTWARDS(ARROW))))",
  "UPWARDS(ARROW(WITH(EQUILATERAL(ARROWHEAD) LARGE(EQUILATERAL(ARROWHEAD))))) VERTICAL(BAR)",
  "WEDGE-TAILED(RIGHTWARDS(ARROW)) WHITE(CIRCLE DOWN-POINTING(TRIANGLE) SQUARE)",
  "WIDE-HEADED(RIGHTWARDS(ARROW))) HEBREW(ACCENT(ATNAH(HAFUKH) DARGA DEHI ETNAHTA GERESH(*",
  "MUQDAM) GERSHAYIM ILUY MAHAPAKH MERKHA(* KEFULA) MUNAH OLE PASHTA PAZER QADMA QARNEY(PARA)",
  "REVIA SEGOL SHALSHELET TELISHA(GEDOLA QETANA) TEVIR TIPEHA YERAH(BEN(YOMO)) YETIV ZAQEF(GADOL",
  "QATAN) ZARQA ZINOR) LETTER(ALEF(* WITH(MAPIQ PATAH QAMATS)) ALTERNATIVE(AYIN PLUS(SIGN)) AYIN",
  "BET(* WITH(DAGESH RAFE)) DALET(* WITH(DAGESH)) FINAL(KAF(* WITH(DAGESH)) MEM NUN PE(*",
  "WITH(DAGESH)) TSADI) GIMEL(* WITH(DAGESH)) HE(* WITH(MAPIQ)) HET KAF(* WITH(DAGESH RAFE))",
  "LAMED(* WITH(DAGESH)) MEM(* WITH(DAGESH)) NUN(* WITH(DAGESH)) PE(* WITH(DAGESH RAFE)) QOF(*",
  "WITH(DAGESH)) RESH(* WITH(DAGESH)) SAMEKH(* WITH(DAGESH)) SHIN(* WITH(DAGESH(* AND(SHIN(DOT)",
  "SIN(DOT))) SHIN(DOT) SIN(DOT))) TAV(* WITH(DAGESH)) TET(* WITH(DAGESH)) TSADI(* WITH(DAGESH))",
  "VAV(* WITH(DAGESH HOLAM)) WIDE(ALEF DALET FINAL(MEM) HE KAF LAMED RESH TAV) YOD(* WITH(DAGESH",
  "HIRIQ)) ZAYIN(* WITH(DAGESH))) LIGATURE(ALEF(LAMED) YIDDISH(DOUBLE(VAV YOD) VAV(YOD)",
  "YOD(YOD(PATAH)))) MARK(LOWER(DOT) MASORA(CIRCLE) UPPER(DOT)) POINT(DAGESH(OR(MAPIQ))",
  "HATAF(PATAH QAMATS SEGOL) HIRIQ HOLAM(* HASER(FOR(VAV))) JUDEO-SPANISH(VARIKA) METEG PATAH",
  "QAMATS(* QATAN) QUBUTS RAFE SEGOL SHEVA SHIN(DOT) SIN(DOT) TSERE) PUNCTUATION(GERESH",
  "GERSHAYIM MAQAF NUN(HAFUKHA) PASEQ SOF(PASUQ)) YOD(TRIANGLE)) HEDGEHOG HELICOPTER",
  "HELLSCHREIBER(PAUSE(SYMBOL)) HELM(SYMBOL) HELMET(WITH(WHITE(CROSS))) HENTAIGANA(LETTER(A-1",
  "A-2 A-3 A-WO E-1 E-2 E-3 E-4 E-5 E-6 HA-1 HA-10 HA-11 HA-2 HA-3 HA-4 HA-5 HA-6 HA-7 HA-8 HA-9",
  "HE-1 HE-2 HE-3 HE-4 HE-5 HE-6 HE-7 HI-1 HI-2 HI-3 HI-4 HI-5 HI-6 HI-7 HO-1 HO-2 HO-3 HO-4",
  "HO-5 HO-6 HO-7 HO-8 HU-1 HU-2 HU-3 I-1 I-2 I-3 I-4 KA-1 KA-10 KA-11 KA-2 KA-3 KA-4 KA-5 KA-6",
  "KA-7 KA-8 KA-9 KA-KE KE-1 KE-2 KE-3 KE-4 KE-5 KE-6 KI-1 KI-2 KI-3 KI-4 KI-5 KI-6 KI-7 KI-8",
  "KO-1 KO-2 KO-3 KO-KI KU-1 KU-2 KU-3 KU-4 KU-5 KU-6 KU-7 MA-1 MA-2 MA-3 MA-4 MA-5 MA-6 MA-7",
  "ME-1 ME-2 ME-MA MI-1 MI-2 MI-3 MI-4 MI-5 MI-6 MI-7 MO-1 MO-2 MO-3 MO-4 MO-5 MO-6 MU-1 MU-2",
  "MU-3 MU-4 N-MU-MO-1 N-MU-MO-2 NA-1 NA-2 NA-3 NA-4 NA-5 NA-6 NA-7 NA-8 NA-9 NE-1 NE-2 NE-3",
  "NE-4 NE-5 NE-6 NE-KO NI-1 NI-2 NI-3 NI-4 NI-5 NI-6 NI-7 NI-TE NO-1 NO-2 NO-3 NO-4 NO-5 NU-1",
  "NU-2 NU-3 O-1 O-2 O-3 RA-1 RA-2 RA-3 RA-4 RE-1 RE-2 RE-3 RE-4 RI-1 RI-2 RI-3 RI-4 RI-5 RI-6",
  "RI-7 RO-1 RO-2 RO-3 RO-4 RO-5 RO-6 RU-1 RU-2 RU-3 RU-4 RU-5 RU-6 SA-1 SA-2 SA-3 SA-4 SA-5",
  "SA-6 SA-7 SA-8 SE-1 SE-2 SE-3 SE-4 SE-5 SI-1 SI-2 SI-3 SI-4 SI-5 SI-6 SO-1 SO-2 SO-3 SO-4",
  "SO-5 SO-6 SO-7 SU-1 SU-2 SU-3 SU-4 SU-5 SU-6 SU-7 SU-8 TA-1 TA-2 TA-3 TA-4 TE-1 TE-2 TE-3",
  "TE-4 TE-5 TE-6 TE-7 TE-8 TE-9 TI-1 TI-2 TI-3 TI-4 TI-5 TI-6 TI-7 TO-1 TO-2 TO-3 TO-4 TO-5",
  "TO-6 TO-RA TU-1 TU-2 TU-3 TU-4 TU-TO U-1 U-2 U-3 U-4 U-5 WA-1 WA-2 WA-3 WA-4 WA-5 WE-1 WE-2",
  "WE-3 WE-4 WI-1 WI-2 WI-3 WI-4 WI-5 WO-1 WO-2 WO-3 WO-4 WO-5 WO-6 WO-7 YA-1 YA-2 YA-3 YA-4",
  "YA-5 YA-YO YO-1 YO-2 YO-3 YO-4 YO-5 YO-6 YU-1 YU-2 YU-3 YU-4)) HERB",
  "HERMITIAN(CONJUGATE(MATRIX)) HEXAGRAM(FOR(ABUNDANCE AFTER(COMPLETION) APPROACH",
  "BEFORE(COMPLETION) BITING(THROUGH) BREAKTHROUGH COMING(TO(MEET)) CONFLICT CONTEMPLATION",
  "DARKENING(OF(THE(LIGHT))) DECREASE DELIVERANCE DEVELOPMENT DIFFICULTY(AT(THE(BEGINNING)))",
  "DISPERSION DURATION ENTHUSIASM FELLOWSHIP FOLLOWING GATHERING(TOGETHER) GRACE",
  "GREAT(POSSESSION POWER PREPONDERANCE TAMING) HOLDING(TOGETHER) INCREASE INFLUENCE",
  "INNER(TRUTH) INNOCENCE LIMITATION MODESTY MOUTH(CORNERS) OBSTRUCTION OPPOSITION OPPRESSION",
  "PEACE PROGRESS PUSHING(UPWARD) RETREAT RETURN REVOLUTION SMALL(PREPONDERANCE TAMING)",
  "SPLITTING(APART) STANDSTILL THE(ABYSMAL(WATER) ARMY AROUSING(THUNDER) CAULDRON CLINGING(FIRE)",
  "CREATIVE(HEAVEN) FAMILY GENTLE(WIND) JOYOUS(LAKE) KEEPING(STILL(MOUNTAIN)) MARRYING(MAIDEN)",
  "RECEPTIVE(EARTH) WANDERER WELL) TREADING WAITING WORK(ON(THE(DECAYED))) YOUTHFUL(FOLLY)))",
  "HIBISCUS HIGH(BRIGHTNESS(SYMBOL) OCTET(PRESET) VOLTAGE(SIGN)) HIGH-HEELED(SHOE)",
  "HIGH-SPEED(TRAIN(* WITH(BULLET(NOSE)))) HIKING(BOOT) HINDU(TEMPLE) HIPPOPOTAMUS",
  "HIRAGANA(DIGRAPH(YORI) ITERATION(MARK) LETTER(A ARCHAIC(WU YE) BA BE BI BO BU DA DE DI DO DU",
  "E GA GE GI GO GU HA HE HI HO HU I KA KE KI KO KU MA ME MI MO MU N NA NE NI NO NU O PA PE PI",
  "PO PU RA RE RI RO RU SA SE SI SMALL(A E I KA KE O TU U WA WE WI WO YA YO YU) SO SU TA TE TI",
  "TO TU U VU WA WE WI WO YA YO YU ZA ZE ZI ZO ZU) VOICED(ITERATION(MARK))) HISTORIC(SITE) HOCHO",
  "HOLE HOLLOW(QUILT(SQUARE(ORNAMENT(* IN(BLACK(SQUARE)))))) HOMOTHETIC HONEY(POT) HONEYBEE HOOK",
  "HOP HORIZONTAL(BAR BLACK(HEXAGON OCTAGON) ELLIPSIS LINE(EXTENSION) MALE(WITH(STROKE(SIGN)))",
  "ONE(EIGHTH(BLOCK-1358 BLOCK-2 BLOCK-3 BLOCK-4 BLOCK-5 BLOCK-6 BLOCK-7)) SCAN(LINE-1 LINE-3",
  "LINE-7 LINE-9) TAB(KEY) TABULATION(* SET WITH(JUSTIFICATION)) TRAFFIC(LIGHT)) HORSE(* FACE",
  "RACING) HOSPITAL HOT(BEVERAGE DOG PEPPER SPRINGS) HOTEL HOURGLASS(* WITH(FLOWING(SAND)))",
  "HOUSE(* BUILDING BUILDINGS WITH(GARDEN)) HRYVNIA(SIGN) HT HTJ HTS HUGGING(FACE)",
  "HUNDRED(POINTS(SYMBOL)) HUSHED(FACE) HUT HYGIEA HYPHEN(* BULLET WITH(DIAERESIS)) HYPHEN-MINUS",
  "HYPHENATION(POINT) HYPODIASTOLE HYSTERESIS(SYMBOL)"]

/-- The names that start with I. -/
def characterNamesI : List String := [
  "I(LOVE(YOU(HAND(SIGN)))) ICE(CREAM CUBE HOCKEY(STICK(AND(PUCK))) SKATE) IDENTICAL(TO(*",
  "AND(SLANTED(PARALLEL))) WITH(DOT(ABOVE))) IDENTIFICATION(CARD)",
  "IDEOGRAPHIC(ANNOTATION(BOTTOM(MARK) EARTH(MARK) FIRST(MARK) FOUR(MARK) FOURTH(MARK)",
  "HEAVEN(MARK) LINKING(MARK) MAN(MARK) MIDDLE(MARK) ONE(MARK) REVERSE(MARK) SECOND(MARK)",
  "THIRD(MARK) THREE(MARK) TOP(MARK) TWO(MARK)) CLOSING(MARK) COMMA DEPARTING(TONE(MARK))",
  "DESCRIPTION(CHARACTER(ABOVE(TO(BELOW MIDDLE(AND(BELOW)))) FULL(SURROUND)",
  "LEFT(TO(MIDDLE(AND(RIGHT)) RIGHT)) OVERLAID SURROUND(FROM(ABOVE BELOW LEFT LOWER(LEFT)",
  "UPPER(LEFT RIGHT))))) ENTERING(TONE(MARK)) FULL(STOP) HALF(FILL(SPACE)) ITERATION(MARK)",
  "LEVEL(TONE(MARK)) NUMBER(ZERO) RISING(TONE(MARK)) SPACE TALLY(MARK(FIVE FOUR ONE THREE TWO))",
  "TELEGRAPH(LINE(FEED(SEPARATOR(SYMBOL))) SYMBOL(FOR(APRIL AUGUST DAY(EIGHT EIGHTEEN ELEVEN",
  "FIFTEEN FIVE FOUR FOURTEEN NINE NINETEEN ONE SEVEN SEVENTEEN SIX SIXTEEN TEN THIRTEEN THIRTY",
  "THIRTY-ONE THREE TWELVE TWENTY TWENTY-EIGHT TWENTY-FIVE TWENTY-FOUR TWENTY-NINE TWENTY-ONE",
  "TWENTY-SEVEN TWENTY-SIX TWENTY-THREE TWENTY-TWO TWO) DECEMBER FEBRUARY HOUR(EIGHT EIGHTEEN",
  "ELEVEN FIFTEEN FIVE FOUR FOURTEEN NINE NINETEEN ONE SEVEN SEVENTEEN SIX SIXTEEN TEN THIRTEEN",
  "THREE TWELVE TWENTY TWENTY-FOUR TWENTY-ONE TWENTY-THREE TWENTY-TWO TWO ZERO) JANUARY JULY",
  "JUNE MARCH MAY NOVEMBER OCTOBER SEPTEMBER))) VARIATION(INDICATOR)) IMAGE(OF(*",
  "OR(APPROXIMATELY(EQUAL(TO))))) IMP IMPERIAL(ARAMAIC(LETTER(ALEPH AYIN BETH DALETH GIMEL HE",
  "HETH KAPH LAMEDH MEM NUN PE QOPH RESH SADHE SAMEKH SHIN TAW TETH WAW YODH ZAYIN) NUMBER(ONE(*",
  "HUNDRED THOUSAND) TEN(* THOUSAND) THREE TWENTY TWO) SECTION(SIGN))) INBOX(TRAY)",
  "INCOMING(ENVELOPE) INCOMPLETE(INFINITY) INCREASE(FONT(SIZE(SYMBOL))) INCREASES(AS) INCREMENT",
  "IND INDEX(* POINTING(AT(THE(VIEWER)))) INDIAN(RUPEE(SIGN)) INDIC(SIYAQ(ALTERNATE(LAKH(MARK))",
  "FRACTION(ONE(HALF QUARTER) THREE(QUARTERS)) LAKH(MARK) NUMBER(ALTERNATE(ONE TEN(THOUSAND)",
  "TWO) EIGHT(* HUNDRED THOUSAND) EIGHTY(* THOUSAND) FIFTY(* THOUSAND) FIVE(* HUNDRED THOUSAND)",
  "FORTY(* THOUSAND) FOUR(* HUNDRED THOUSAND) KAROR KARORAN LAKH LAKHAN NINE(* HUNDRED THOUSAND)",
  "NINETY(* THOUSAND) ONE(* HUNDRED THOUSAND) PREFIXED(EIGHT FIVE FOUR NINE ONE SEVEN SIX THREE",
  "TWO) SEVEN(* HUNDRED THOUSAND) SEVENTY(* THOUSAND) SIX(* HUNDRED THOUSAND) SIXTY(* THOUSAND)",
  "TEN(* THOUSAND) THIRTY(* THOUSAND) THREE(* HUNDRED THOUSAND) TWENTY(* THOUSAND) TWO(* HUNDRED",
  "THOUSAND)) PLACEHOLDER RUPEE(MARK))) INFINITY(* NEGATED(WITH(VERTICAL(BAR))))",
  "INFORMATION(DESK(PERSON) SEPARATOR(FOUR ONE THREE TWO) SOURCE) INHIBIT(ARABIC(FORM(SHAPING))",
  "SYMMETRIC(SWAPPING)) INPUT(SYMBOL(FOR(LATIN(CAPITAL(LETTERS) LETTERS SMALL(LETTERS)) NUMBERS",
  "SYMBOLS))) INSCRIPTIONAL(PAHLAVI(LETTER(ALEPH BETH DALETH GIMEL HE HETH KAPH LAMEDH MEM-QOPH",
  "NUN PE SADHE SAMEKH SHIN TAW TETH WAW-AYIN-RESH YODH ZAYIN) NUMBER(FOUR ONE(* HUNDRED",
  "THOUSAND) TEN THREE TWENTY TWO)) PARTHIAN(LETTER(ALEPH AYIN BETH DALETH GIMEL HE HETH KAPH",
  "LAMEDH MEM NUN PE QOPH RESH SADHE SAMEKH SHIN TAW TETH WAW YODH ZAYIN) NUMBER(FOUR ONE(*",
  "HUNDRED THOUSAND) TEN THREE TWENTY TWO))) INSERTION(SYMBOL) INTEGRAL(*",
  "AROUND(A(POINT(OPERATOR))) AVERAGE(WITH(SLASH)) EXTENSION WITH(DOUBLE(STROKE) INTERSECTION",
  "LEFTWARDS(ARROW(WITH(HOOK))) OVERBAR TIMES(SIGN) UNDERBAR UNION)) INTERCALATE",
  "INTERIOR(PRODUCT) INTERLINEAR(ANNOTATION(ANCHOR SEPARATOR TERMINATOR))",
  "INTERLOCKED(FEMALE(AND(MALE(SIGN)))) INTERROBANG INTERSECTION(* ABOVE(BAR(ABOVE(UNION))",
  "UNION) BESIDE(AND(JOINED(WITH(INTERSECTION)))) WITH(DOT LOGICAL(AND) OVERBAR)) INVERSE(BULLET",
  "CHECK(MARK) CHECKER(BOARD(FILL)) DOWNWARDS(ARROW(WITH(TIP(LEFTWARDS)))) MEDIUM(SHADE)",
  "WHITE(CIRCLE)) INVERTED(EXCLAMATION(MARK) INTERROBANG LAZY(S) LOW(KAVYKA(*",
  "WITH(KAVYKA(ABOVE)))) OHM(SIGN) PENTAGRAM QUESTION(MARK) UNDERTIE) INVISIBLE(PLUS SEPARATOR",
  "TIMES) IZAKAYA(LANTERN)"]

/-- The names that start with J. -/
def characterNamesJ : List String := [
  "JACK-O-LANTERN JAPANESE(BANK(SYMBOL) CASTLE DOLLS GOBLIN INDUSTRIAL(STANDARD(SYMBOL)) OGRE",
  "POST(OFFICE) SYMBOL(FOR(BEGINNER))) JAR JAVANESE(CONSONANT(SIGN(CAKRA KERET PENGKAL))",
  "DIGIT(EIGHT FIVE FOUR NINE ONE SEVEN SIX THREE TWO ZERO) LEFT(RERENGGAN) LETTER(A AI BA(*",
  "MURDA) CA(* MURDA) DA(* MAHAPRANA) DDA(* MAHAPRANA) E GA(* MURDA) HA I(* KAWI) II JA(*",
  "MAHAPRANA) KA(* MURDA SASAK) LA MA NA(* MURDA) NGA(* LELET(* RASWADI)) NYA(* MURDA) O PA(*",
  "CEREK MURDA) RA(* AGUNG) SA(* MAHAPRANA MURDA) TA(* MURDA) TTA(* MAHAPRANA) U WA YA)",
  "PADA(ADEG(* ADEG) ANDAP ISEN-ISEN LINGSA LUHUR LUNGSI MADYA PANGKAT PISELEH TIRTA(TUMETES)",
  "WINDU) PANGKON PANGRANGKEP RIGHT(RERENGGAN) SIGN(CECAK(* TELU) LAYAR PANYANGGA WIGNYAN)",
  "TURNED(PADA(PISELEH)) VOWEL(SIGN(DIRGA(MURE) PEPET SUKU(* MENDUT) TALING TARUNG TOLONG WULU(*",
  "MELIK)))) JEANS JIGSAW(PUZZLE(PIECE)) JOIN JOYSTICK JUGGLING JUNO JUPITER"]

/-- The names that start with K. -/
def characterNamesK : List String := [
  "KAABA KAITHI(ABBREVIATION(SIGN) DANDA DOUBLE(DANDA SECTION(MARK)) ENUMERATION(SIGN) LETTER(A",
  "AA AI AU BA BHA CA CHA DA DDA DDDHA DDHA DHA E GA GHA HA I II JA JHA KA KHA LA MA NA NGA NNA",
  "NYA O PA PHA RA RHA SA SHA SSA TA THA TTA TTHA U UU VA YA) NUMBER(SIGN(* ABOVE))",
  "SECTION(MARK) SIGN(ANUSVARA CANDRABINDU NUKTA VIRAMA VISARGA) VOWEL(SIGN(AA AI AU E I II O U",
  "UU VOCALIC(R)))) KANGAROO KANGXI(RADICAL(AGAIN AND ARRIVE ARROW AXE BADGER BAMBOO BEAN BIG",
  "BIRD BITTER BLACK BLOOD BLUE BOAT BODY BOLT(OF(CLOTH)) BONE BOW BRANCH BRISTLE BRUSH CART",
  "CAULDRON CAVE CHILD CITY CLAN CLAW CLIFF CLOTHES COLOR COMPARE CORPSE COVER COW DEATH DEER",
  "DIPPER DISH DISTINGUISH DIVINATION DO(NOT) DOG DOOR DOT DOTTED(CLIFF TENT) DOUBLE(X)",
  "DOWN(BOX) DRAGON DRUM DRY EAR EARTH EAT EIGHT EMBROIDERY ENCLOSURE ENTER EVEN EVENING EYE",
  "FACE FANG FATHER FEATHER FIELD FIGHT FIRE FISH FLUTE FLY FOOT FRAGRANT FROG FUR GATE GHOST",
  "GO(* SLOWLY) GOLD GRAIN GRASS HAIR HALBERD HALF(TREE(TRUNK)) HAND HEAD HEART HEMP",
  "HIDING(ENCLOSURE) HOOK HORN HORSE ICE INCH INSECT JADE JAR KNIFE LACK LAME LEAF LEATHER LEEK",
  "LEGS LID LIFE LINE LONG(* STRIDE) MAN MEAT MELON MILLET MINISTER MOON MORNING MORTAR MOUND",
  "MOUNTAIN MOUTH NET NOSE NOT OLD ONE ONESELF OPEN(BOX) OPPOSE PIG PLOW POWER PRIVATE PROFOUND",
  "RAIN RAP RAT RED RICE RIGHT(OPEN(BOX)) RIVER ROOF RUN SACRIFICIAL(WINE) SALT SAY SCHOLAR",
  "SCRIPT SEAL SECOND SEE SELF SHEEP SHELL SHOOT SHORT(TAILED(BIRD) THREAD) SICKNESS SILK SKIN",
  "SLASH SLAVE SLICE SMALL SNOUT SOUND SPEAR SPEECH SPIRIT SPOON SPROUT SQUARE STAND STEAM STEP",
  "STONE STOP STOPPING SUN SWEET TABLE TALL TANNED(LEATHER) TEN TIGER TILE TONGUE TOOTH TRACK",
  "TREE TRIPOD TURBAN TURTLE TWO(* HANDS) USE VALLEY VILLAGE WALK(* ENCLOSURE) WATER WEAPON WEST",
  "WHEAT WHITE WIND WINE WOMAN WORK WRAP WRONG YELLOW)) KANNADA(AI(LENGTH(MARK)) DIGIT(EIGHT",
  "FIVE FOUR NINE ONE SEVEN SIX THREE TWO ZERO) LENGTH(MARK) LETTER(A AA AI AU BA BHA CA CHA DA",
  "DDA DDHA DHA E EE FA GA GHA HA I II JA JHA KA KHA LA LLA LLLA MA NA NAKAARA(POLLU) NGA NNA",
  "NYA O OO PA PHA RA RRA SA SHA SSA TA THA TTA TTHA U UU VA VOCALIC(L LL R RR) YA)",
  "SIGN(ANUSVARA AVAGRAHA CANDRABINDU JIHVAMULIYA NUKTA SIDDHAM SPACING(CANDRABINDU) UPADHMANIYA",
  "VIRAMA VISARGA) VOWEL(SIGN(AA AI AU E EE I II O OO U UU VOCALIC(L LL R RR))))",
  "KATAKANA(DIGRAPH(KOTO) ITERATION(MARK) LETTER(A ARCHAIC(E WU YE YI) BA BE BI BO BU DA DE DI",
  "DO DU E GA GE GI GO GU HA HE HI HO HU I KA KE KI KO KU MA ME MI MINNAN(NASALIZED(TONE-1",
  "TONE-2 TONE-3 TONE-4 TONE-5 TONE-7 TONE-8) TONE-2 TONE-3 TONE-4 TONE-5 TONE-7 TONE-8) MO MU N",
  "NA NE NI NO NU O PA PE PI PO PU RA RE RI RO RU SA SE SI SMALL(A E HA HE HI HO HU I KA KE KU",
  "MU N NU O RA RE RI RO RU SI SU TO TU U WA WE WI WO YA YO YU) SO SU TA TE TI TO TU U VA VE VI",
  "VO VU WA WE WI WO YA YO YU ZA ZE ZI ZO ZU) MIDDLE(DOT) VOICED(ITERATION(MARK)))",
  "KATAKANA-HIRAGANA(DOUBLE(HYPHEN) PROLONGED(SOUND(MARK)) SEMI-VOICED(SOUND(MARK))",
  "VOICED(SOUND(MARK))) KAYAH(LI(DIGIT(EIGHT FIVE FOUR NINE ONE SEVEN SIX THREE TWO ZERO)",
  "LETTER(A BA CA DA GA HA HTA I KA KHA LA MA NA NGA NYA OE OO PA PHA RA SA SHA TA THA VA WA YA",
  "ZA) SIGN(CWI SHYA) TONE(CALYA(* PLOPHU) PLOPHU) VOWEL(E EE O U UE))) KELVIN(SIGN) KEY",
  "KEYBOARD(* AND(MOUSE)) KEYCAP(TEN) KHAROSHTHI(DIGIT(FOUR ONE THREE TWO) FRACTION(ONE(HALF))",
  "LETTER(A BA BHA CA CHA DA DDA DDHA DHA GA GHA HA JA KA KHA KKA LA MA NA NNA NYA PA PHA RA SA",
  "SHA SSA TA THA TTA TTHA TTTA TTTHA VA VHA YA ZA) NUMBER(ONE(HUNDRED THOUSAND) TEN TWENTY)",
  "PUNCTUATION(CIRCLE CRESCENT(BAR) DANDA DOT DOUBLE(DANDA) LINES LOTUS MANGALAM SMALL(CIRCLE))",
  "SIGN(ANUSVARA BAR(ABOVE) CAUDA DOT(BELOW) DOUBLE(RING(BELOW)) VISARGA) VIRAMA",
  "VOWEL(LENGTH(MARK) SIGN(E I O U VOCALIC(R)))) KHITAN(SMALL(SCRIPT(FILLER)))",
  "KHMER(CURRENCY(SYMBOL(RIEL)) DIGIT(EIGHT FIVE FOUR NINE ONE SEVEN SIX THREE TWO ZERO)",
  "INDEPENDENT(VOWEL(LY LYY QAA QAI QAQ QAU QE QI QII QOO(TYPE(ONE TWO)) QU QUK QUU QUUV RY",
  "RYY)) LETTER(BA CA CHA CHO CO DA DO HA KA KHA KHO KO LA LO MO NGO NNO NO NYO PHA PHO PO QA RO",
  "SA SHA SSO TA THA THO TO TTHA TTHO VO YO) SIGN(AHSDA ATTHACAN AVAKRAHASANYA BANTOC BARIYOOSAN",
  "BATHAMASAT BEYYAL CAMNUC(PII(KUUH)) COENG KAKABAT KHAN KOOMUUT LEK(TOO) MUUSIKATOAN NIKAHIT",
  "PHNAEK(MUAN) REAHMUK ROBAT SAMYOK(SANNYA) TOANDAKHIAT TRIISAP VIRIAM YUUKALEAPINTU)",
  "SYMBOL(BEI(KOET ROC) BUON(KOET ROC) DAP(KOET ROC) DAP-BEI(KOET ROC) DAP-BUON(KOET ROC)",
  "DAP-MUOY(KOET ROC) DAP-PII(KOET ROC) DAP-PRAM(KOET ROC) LEK(ATTAK(BEI BUON MUOY PII PRAM",
  "PRAM-BEI PRAM-BUON PRAM-MUOY PRAM-PII SON)) MUOY(KOET ROC) PATHAMASAT PII(KOET ROC) PRAM(KOET",
  "ROC) PRAM-BEI(KOET ROC) PRAM-BUON(KOET ROC) PRAM-MUOY(KOET ROC) PRAM-PII(KOET ROC) TUTEYASAT)",
  "VOWEL(INHERENT(AA AQ) SIGN(AA AE AI AU E I IE II OE OO U UA UU Y YA YY)))",
  "KHOJKI(ABBREVIATION(SIGN) DANDA DOUBLE(DANDA SECTION(MARK)) LETTER(A AA AI AU BA BBA BHA CA",
  "CHA DA DDA DDDA DDHA DHA E GA GGA GHA HA I JA JJA KA KHA LA LLA MA NA NGA NNA NYA O PA PHA RA",
  "SA TA THA TTA TTHA U VA YA) SECTION(MARK) SIGN(ANUSVARA NUKTA SHADDA SUKUN VIRAMA)",
  "VOWEL(SIGN(AA AI AU E I II O U)) WORD(SEPARATOR)) KHUDAWADI(DIGIT(EIGHT FIVE FOUR NINE ONE",
  "SEVEN SIX THREE TWO ZERO) LETTER(A AA AI AU BA BBA BHA CA CHA DA DDA DDDA DDHA DHA E GA GGA",
  "GHA HA I II JA JHA JJA KA KHA LA MA NA NGA NNA NYA O PA PHA RA RRA SA SHA TA THA TTA TTHA U",
  "UU VA YA) SIGN(ANUSVARA NUKTA VIRAMA) VOWEL(SIGN(AA AI AU E I II O U UU))) KIMONO KIP(SIGN)",
  "KISS(* MARK) KISSING(CAT(FACE(WITH(CLOSED(EYES)))) FACE(* WITH(CLOSED(EYES) SMILING(EYES))))",
  "KITE KIWIFRUIT KNEELING(PERSON) KNOT KOALA KOREAN(STANDARD(SYMBOL)) KRONOS"]

/-- The names that start with L. -/
def characterNamesL : List String := [
  "L(B(BAR(SYMBOL))) LAB(COAT) LABEL LACROSSE(STICK(AND(BALL))) LADDER LADY(BEETLE)",
  "LANGUAGE(TAG) LAO(CANCELLATION(MARK) DIGIT(EIGHT FIVE FOUR NINE ONE SEVEN SIX THREE TWO ZERO)",
  "ELLIPSIS HO(MO NO) KO(LA) LETTER(BO CO DO FO(FAY FON SUNG TAM) HO(SUNG TAM) KHMU(GO NYO)",
  "KHO(SUNG TAM) KO LO(* LING LOOT) MO NGO NO NYO O PALI(BHA CHA DDA DDHA DHA GHA JHA LLA NNA",
  "NYA TTA TTHA) PHO(SUNG TAM) PO RO SANSKRIT(SHA SSA) SO(SUNG TAM) THO(SUNG TAM) TO WO YO)",
  "NIGGAHITA SEMIVOWEL(SIGN(LO NYO)) SIGN(PALI(VIRAMA)) TONE(MAI(CATAWA EK THO TI)) VOWEL(SIGN(A",
  "AA AI AM AY E EI I II MAI(KAN KON) O U UU Y YY))) LARGE(BLUE(CIRCLE DIAMOND SQUARE)",
  "BROWN(CIRCLE SQUARE) CIRCLE DOWN(TACK) GREEN(CIRCLE SQUARE) LEFT(TRIANGLE(OPERATOR))",
  "ONE(DOT(OVER(TWO(DOTS(PUNCTUATION)))) RING(OVER(TWO(RINGS(PUNCTUATION))))) ORANGE(CIRCLE",
  "DIAMOND SQUARE) PURPLE(CIRCLE SQUARE) RED(CIRCLE SQUARE) TRIPLE(VERTICAL(BAR(OPERATOR)))",
  "TWO(DOTS(OVER(ONE(DOT(PUNCTUATION)))) RINGS(OVER(ONE(RING(PUNCTUATION))))) UP(TACK)",
  "YELLOW(CIRCLE SQUARE)) LARGER(THAN(* OR(EQUAL(TO)))) LARI(SIGN) LAST(QUARTER(MOON(* SYMBOL",
  "WITH(FACE)))) LATIN(CAPITAL(LETTER(A(* WITH(ACUTE BREVE(* AND(ACUTE DOT(BELOW) GRAVE",
  "HOOK(ABOVE) TILDE)) CARON CIRCUMFLEX(* AND(ACUTE DOT(BELOW) GRAVE HOOK(ABOVE) TILDE))",
  "DIAERESIS(* AND(MACRON)) DOT(ABOVE(* AND(MACRON)) BELOW) DOUBLE(GRAVE) GRAVE HOOK(ABOVE)",
  "INVERTED(BREVE) MACRON OGONEK RING(ABOVE(* AND(ACUTE)) BELOW) STROKE TILDE)) AA AE(*",
  "WITH(ACUTE MACRON)) AFRICAN(D) ALPHA ANGLICANA(W) AO AU AV(* WITH(HORIZONTAL(BAR))) AY B(*",
  "WITH(DOT(ABOVE BELOW) FLOURISH HOOK LINE(BELOW) STROKE TOPBAR)) BETA BROKEN(L) C(* WITH(ACUTE",
  "BAR CARON CEDILLA(* AND(ACUTE)) CIRCUMFLEX DOT(ABOVE) HOOK PALATAL(HOOK) STROKE)) CHI",
  "CLOSED(INSULAR(G)) CON CUATRILLO(* WITH(COMMA)) D(* WITH(CARON CEDILLA CIRCUMFLEX(BELOW)",
  "DOT(ABOVE BELOW) HOOK LINE(BELOW) SHORT(STROKE(OVERLAY)) SMALL(LETTER(Z(* WITH(CARON))))",
  "STROKE TOPBAR)) DZ(* WITH(CARON)) E(* WITH(ACUTE BREVE CARON CEDILLA(* AND(BREVE))",
  "CIRCUMFLEX(* AND(ACUTE DOT(BELOW) GRAVE HOOK(ABOVE) TILDE) BELOW) DIAERESIS DOT(ABOVE BELOW)",
  "DOUBLE(GRAVE) GRAVE HOOK(ABOVE) INVERTED(BREVE) MACRON(* AND(ACUTE GRAVE)) OGONEK STROKE",
  "TILDE(* BELOW))) EGYPTOLOGICAL(AIN ALEF) ENG ESH ET ETH EZH(* REVERSED WITH(CARON)) F(*",
  "WITH(DOT(ABOVE) HOOK STROKE)) G(* WITH(ACUTE BREVE CARON CEDILLA CIRCUMFLEX DOT(ABOVE) HOOK",
  "MACRON OBLIQUE(STROKE) STROKE)) GAMMA GHA GLOTTAL(A I STOP U) H(* WITH(BREVE(BELOW) CARON",
  "CEDILLA CIRCUMFLEX DESCENDER DIAERESIS DOT(ABOVE BELOW) HOOK STROKE)) HALF(H) HENG HWAIR I(*",
  "WITH(ACUTE BREVE CARON CIRCUMFLEX DIAERESIS(* AND(ACUTE)) DOT(ABOVE BELOW) DOUBLE(GRAVE)",
  "GRAVE HOOK(ABOVE) INVERTED(BREVE) MACRON OGONEK STROKE TILDE(* BELOW))) INSULAR(D F G R S T)",
  "IOTA IS J(* WITH(CIRCUMFLEX CROSSED-TAIL STROKE)) K(* WITH(ACUTE CARON CEDILLA DESCENDER",
  "DIAGONAL(STROKE) DOT(BELOW) HOOK LINE(BELOW) OBLIQUE(STROKE) STROKE(*",
  "AND(DIAGONAL(STROKE))))) L(* WITH(ACUTE BAR BELT CARON CEDILLA CIRCUMFLEX(BELOW) DOT(BELOW(*",
  "AND(MACRON))) DOUBLE(BAR) HIGH(STROKE) LINE(BELOW) MIDDLE(DOT TILDE) SMALL(LETTER(J))",
  "STROKE)) LJ M(* WITH(ACUTE DOT(ABOVE BELOW) HOOK)) MIDDLE(SCOTS(S)) MIDDLE-WELSH(LL V) N(*",
  "WITH(ACUTE CARON CEDILLA CIRCUMFLEX(BELOW) DESCENDER DOT(ABOVE BELOW) GRAVE LEFT(HOOK)",
  "LINE(BELOW) LONG(RIGHT(LEG)) OBLIQUE(STROKE) SMALL(LETTER(J)) TILDE)) NJ O(* WITH(ACUTE BREVE",
  "CARON CIRCUMFLEX(* AND(ACUTE DOT(BELOW) GRAVE HOOK(ABOVE) TILDE)) DIAERESIS(* AND(MACRON))",
  "DOT(ABOVE(* AND(MACRON)) BELOW) DOUBLE(ACUTE GRAVE) GRAVE HOOK(ABOVE) HORN(* AND(ACUTE",
  "DOT(BELOW) GRAVE HOOK(ABOVE) TILDE)) INVERTED(BREVE) LONG(STROKE(OVERLAY)) LOOP MACRON(*",
  "AND(ACUTE GRAVE)) MIDDLE(TILDE) OGONEK(* AND(MACRON)) STROKE(* AND(ACUTE)) TILDE(* AND(ACUTE",
  "DIAERESIS MACRON)))) OI OLD(POLISH(O)) OMEGA OO OPEN(E O) OU P(* WITH(ACUTE DOT(ABOVE)",
  "FLOURISH HOOK SQUIRREL(TAIL) STROKE(* THROUGH(DESCENDER)))) Q(* WITH(DIAGONAL(STROKE)",
  "STROKE(THROUGH(DESCENDER)))) R(* ROTUNDA WITH(ACUTE CARON CEDILLA DOT(ABOVE BELOW(*",
  "AND(MACRON))) DOUBLE(GRAVE) INVERTED(BREVE) LINE(BELOW) OBLIQUE(STROKE) STROKE TAIL))",
  "REVERSED(C(WITH(DOT)) E HALF(H) OPEN(E)) RUM(ROTUNDA) S(* WITH(ACUTE(* AND(DOT(ABOVE)))",
  "CARON(* AND(DOT(ABOVE))) CEDILLA CIRCUMFLEX COMMA(BELOW) DOT(ABOVE BELOW(* AND(DOT(ABOVE))))",
  "HOOK OBLIQUE(STROKE) SHORT(STROKE(OVERLAY)) SWASH(TAIL))) SALTILLO SCHWA SCRIPT(G) SHARP(S)",
  "SIGMOID(S) SMALL(CAPITAL(I) Q(WITH(HOOK(TAIL)))) T(* WITH(CARON CEDILLA CIRCUMFLEX(BELOW)",
  "COMMA(BELOW) DIAGONAL(STROKE) DOT(ABOVE BELOW) HOOK LINE(BELOW) RETROFLEX(HOOK) STROKE))",
  "THORN(* WITH(STROKE(* THROUGH(DESCENDER)))) TONE(FIVE SIX TWO) TRESILLO TURNED(A ALPHA H",
  "INSULAR(G) K L M T V) TZ U(* BAR WITH(ACUTE BREVE CARON CIRCUMFLEX(* BELOW) DIAERESIS(*",
  "AND(ACUTE CARON GRAVE MACRON) BELOW) DOT(BELOW) DOUBLE(ACUTE GRAVE) GRAVE HOOK(ABOVE) HORN(*",
  "AND(ACUTE DOT(BELOW) GRAVE HOOK(ABOVE) TILDE)) INVERTED(BREVE) MACRON(* AND(DIAERESIS))",
  "OGONEK RING(ABOVE) STROKE TILDE(* AND(ACUTE) BELOW))) UPSILON V(* WITH(DIAGONAL(STROKE)",
  "DOT(BELOW) HOOK TILDE)) VEND VISIGOTHIC(Z) VOLAPUK(AE OE UE) VY W(* WITH(ACUTE CIRCUMFLEX",
  "DIAERESIS DOT(ABOVE BELOW) GRAVE HOOK)) WYNN X(* WITH(DIAERESIS DOT(ABOVE))) Y(* WITH(ACUTE",
  "CIRCUMFLEX DIAERESIS DOT(ABOVE BELOW) GRAVE HOOK(* ABOVE) LOOP MACRON STROKE TILDE)) YOGH Z(*",
  "WITH(ACUTE CARON CIRCUMFLEX DESCENDER DOT(ABOVE BELOW) HOOK LINE(BELOW) PALATAL(HOOK) STROKE",
  "SWASH(TAIL)))) LIGATURE(IJ OE)) CROSS EPIGRAPHIC(LETTER(ARCHAIC(M) I(LONGA) INVERTED(M)",
  "REVERSED(F P) SIDEWAYS(I))) LETTER(AIN ALVEOLAR(CLICK) BIDENTAL(PERCUSSIVE) BILABIAL(CLICK",
  "PERCUSSIVE) DENTAL(CLICK) GLOTTAL(STOP(* WITH(STROKE))) INVERTED(GLOTTAL(STOP(* WITH(CURL",
  "STROKE)))) LATERAL(CLICK) PHARYNGEAL(VOICED(FRICATIVE)) RETROFLEX(CLICK(*",
  "WITH(RETROFLEX(HOOK)))) REVERSED(ESH(LOOP) GLOTTAL(STOP(WITH(STROKE)))) SINOLOGICAL(DOT)",
  "SMALL(CAPITAL(A AE B BARRED(B) C D E ETH EZH F G(* WITH(HOOK)) H I INVERTED(R) J K L(*",
  "WITH(BELT STROKE)) M N O OE OPEN(O) OU P Q R(* WITH(RIGHT(LEG))) REVERSED(N R) RUM S T",
  "TURNED(E G K M R) U V W Y Z)) STRETCHED(C(* WITH(CURL))) TWO(WITH(STROKE))",
  "VOICED(LARYNGEAL(SPIRANT)) WYNN YR) SMALL(CAPITAL(LETTER(I(WITH(STROKE)) U(WITH(STROKE))))",
  "LETTER(A(* REVERSED-SCHWA WITH(ACUTE BREVE(* AND(ACUTE DOT(BELOW) GRAVE HOOK(ABOVE) TILDE))",
  "CARON CIRCUMFLEX(* AND(ACUTE DOT(BELOW) GRAVE HOOK(ABOVE) TILDE)) DIAERESIS(* AND(MACRON))",
  "DOT(ABOVE(* AND(MACRON)) BELOW) DOUBLE(GRAVE) GRAVE HOOK(ABOVE) INVERTED(BREVE) MACRON OGONEK",
  "RETROFLEX(HOOK) RIGHT(HALF(RING)) RING(ABOVE(* AND(ACUTE)) BELOW) STROKE TILDE)) AA AE(*",
  "WITH(ACUTE MACRON)) ALPHA(* WITH(RETROFLEX(HOOK))) ANGLICANA(W) AO AU AV(*",
  "WITH(HORIZONTAL(BAR))) AY B(* WITH(DOT(ABOVE BELOW) FLOURISH HOOK LINE(BELOW) MIDDLE(TILDE)",
  "PALATAL(HOOK) STROKE TOPBAR)) BARRED(ALPHA E O) BASELINE(ESH) BETA BLACKLETTER(E O(*",
  "WITH(STROKE))) BOTTOM(HALF(O)) BROKEN(L) C(* WITH(ACUTE BAR CARON CEDILLA(* AND(ACUTE))",
  "CIRCUMFLEX CURL DOT(ABOVE) HOOK PALATAL(HOOK) RETROFLEX(HOOK) STROKE)) CHI(*",
  "WITH(LOW(LEFT(SERIF) RIGHT(RING)))) CLOSED(INSULAR(G) OMEGA OPEN(E) REVERSED(OPEN(E))) CON",
  "CUATRILLO(* WITH(COMMA)) D(* WITH(CARON CEDILLA CIRCUMFLEX(BELOW) CURL DOT(ABOVE BELOW)",
  "HOOK(* AND(TAIL)) LINE(BELOW) MIDDLE(TILDE) PALATAL(HOOK) SHORT(STROKE(OVERLAY)) STROKE TAIL",
  "TOPBAR)) DB(DIGRAPH) DELTA DEZH(DIGRAPH(* WITH(PALATAL(HOOK) RETROFLEX(HOOK)))) DOTLESS(I J(*",
  "WITH(STROKE(* AND(HOOK))))) DOUBLE(R(* WITH(CROSSED-TAIL)) THORN WYNN) DUM DZ(* DIGRAPH(*",
  "WITH(CURL RETROFLEX(HOOK))) WITH(CARON)) E(* WITH(ACUTE BREVE CARON CEDILLA(* AND(BREVE))",
  "CIRCUMFLEX(* AND(ACUTE DOT(BELOW) GRAVE HOOK(ABOVE) TILDE) BELOW) DIAERESIS DOT(ABOVE BELOW)",
  "DOUBLE(GRAVE) FLOURISH GRAVE HOOK(ABOVE) INVERTED(BREVE) MACRON(* AND(ACUTE GRAVE)) NOTCH",
  "OGONEK RETROFLEX(HOOK) STROKE TILDE(* BELOW))) EGYPTOLOGICAL(AIN ALEF) ENG(*",
  "WITH(CROSSED-TAIL PALATAL(HOOK))) ESH(* WITH(CURL DOUBLE(BAR(* AND(CURL))) PALATAL(HOOK)",
  "RETROFLEX(HOOK))) ET ETH EZH(* REVERSED WITH(CARON CURL PALATAL(HOOK) RETROFLEX(HOOK) TAIL))",
  "F(* WITH(DOT(ABOVE) HOOK MIDDLE(TILDE) PALATAL(HOOK) STROKE)) FENG(DIGRAPH(* WITH(TRILL)))",
  "G(* WITH(ACUTE BREVE CARON CEDILLA CIRCUMFLEX DOT(ABOVE) HOOK MACRON OBLIQUE(STROKE)",
  "PALATAL(HOOK) STROKE)) GAMMA GHA GLOTTAL(A I STOP U) H(* WITH(BREVE(BELOW) CARON CEDILLA",
  "CIRCUMFLEX DESCENDER DIAERESIS DOT(ABOVE BELOW) HOOK LINE(BELOW) PALATAL(HOOK) STROKE))",
  "HALF(H) HENG(* WITH(HOOK)) HV I(* WITH(ACUTE BREVE CARON CIRCUMFLEX DIAERESIS(* AND(ACUTE))",
  "DOT(BELOW) DOUBLE(GRAVE) GRAVE HOOK(ABOVE) INVERTED(BREVE) MACRON OGONEK RETROFLEX(HOOK)",
  "STROKE(* AND(RETROFLEX(HOOK))) TILDE(* BELOW))) INSULAR(D F G R S T) INVERTED(ALPHA OE)",
  "IOTA(* WITH(STROKE)) IOTIFIED(E) IS J(* WITH(CARON CIRCUMFLEX CROSSED-TAIL STROKE)) K(*",
  "WITH(ACUTE CARON CEDILLA DESCENDER DIAGONAL(STROKE) DOT(BELOW) HOOK LINE(BELOW)",
  "OBLIQUE(STROKE) PALATAL(HOOK) STROKE(* AND(DIAGONAL(STROKE))))) KRA L(* WITH(ACUTE BAR BELT(*",
  "AND(PALATAL(HOOK))) CARON CEDILLA CIRCUMFLEX(BELOW) CURL DOT(BELOW(* AND(MACRON))) DOUBLE(BAR",
  "MIDDLE(TILDE)) FISHHOOK HIGH(STROKE) INVERTED(LAZY(S)) LINE(BELOW) MIDDLE(DOT RING TILDE)",
  "PALATAL(HOOK) RETROFLEX(HOOK(* AND(BELT))) STROKE)) LAMBDA(WITH(STROKE)) LENIS(F) LEZH(*",
  "WITH(RETROFLEX(HOOK))) LJ LONG(S(* WITH(DIAGONAL(STROKE) DOT(ABOVE) HIGH(STROKE))))",
  "LS(DIGRAPH) LUM LZ(DIGRAPH) M(* WITH(ACUTE CROSSED-TAIL DOT(ABOVE BELOW) HOOK MIDDLE(TILDE)",
  "PALATAL(HOOK))) MIDDLE(SCOTS(S)) MIDDLE-WELSH(LL V) MUM N(* PRECEDED(BY(APOSTROPHE))",
  "WITH(ACUTE CARON CEDILLA CIRCUMFLEX(BELOW) CROSSED-TAIL CURL DESCENDER DOT(ABOVE BELOW) GRAVE",
  "LEFT(HOOK) LINE(BELOW) LONG(RIGHT(LEG)) MIDDLE(TILDE) OBLIQUE(STROKE) PALATAL(HOOK)",
  "RETROFLEX(HOOK) TILDE)) NJ NUM O(* WITH(ACUTE BREVE CARON CIRCUMFLEX(* AND(ACUTE DOT(BELOW)",
  "GRAVE HOOK(ABOVE) TILDE)) DIAERESIS(* AND(MACRON)) DOT(ABOVE(* AND(MACRON)) BELOW)",
  "DOUBLE(ACUTE GRAVE) GRAVE HOOK(ABOVE) HORN(* AND(ACUTE DOT(BELOW) GRAVE HOOK(ABOVE) TILDE))",
  "INVERTED(BREVE) LONG(STROKE(OVERLAY)) LOOP LOW(RING(INSIDE)) MACRON(* AND(ACUTE GRAVE))",
  "OGONEK(* AND(MACRON)) RETROFLEX(HOOK) STROKE(* AND(ACUTE)) TILDE(* AND(ACUTE DIAERESIS",
  "MACRON)))) OI OLD(POLISH(O)) OMEGA OO OPEN(E(* WITH(RETROFLEX(HOOK))) O(*",
  "WITH(RETROFLEX(HOOK) STROKE)) OE) OU P(* WITH(ACUTE DOT(ABOVE) FLOURISH HOOK MIDDLE(TILDE)",
  "PALATAL(HOOK) SQUIRREL(TAIL) STROKE(* THROUGH(DESCENDER)))) PHI Q(* WITH(DIAGONAL(STROKE)",
  "HOOK(* TAIL) STROKE(THROUGH(DESCENDER)))) QP(DIGRAPH) R(* ROTUNDA WITH(ACUTE CARON CEDILLA",
  "CROSSED-TAIL DOT(ABOVE BELOW(* AND(MACRON))) DOUBLE(GRAVE) FISHHOOK(* AND(MIDDLE(TILDE)",
  "PALATAL(HOOK))) INVERTED(BREVE) LINE(BELOW) LONG(LEG) MIDDLE(TILDE) OBLIQUE(STROKE)",
  "PALATAL(HOOK) STROKE TAIL) WITHOUT(HANDLE)) RAMS(HORN) REVERSED(C(* WITH(DOT)) E ENG HALF(H)",
  "K OPEN(E(* WITH(HOOK RETROFLEX(HOOK)))) R(WITH(FISHHOOK)) SCRIPT(G)) RUM(* ROTUNDA) S(*",
  "WITH(ACUTE(* AND(DOT(ABOVE))) CARON(* AND(DOT(ABOVE))) CEDILLA CIRCUMFLEX COMMA(BELOW) CURL",
  "DOT(ABOVE BELOW(* AND(DOT(ABOVE)))) HOOK MIDDLE(TILDE) OBLIQUE(STROKE) PALATAL(HOOK)",
  "SHORT(STROKE(OVERLAY)) SWASH(TAIL))) SAKHA(YAT) SALTILLO SCHWA(* WITH(HOOK RETROFLEX(HOOK)))",
  "SCRIPT(G(* WITH(CROSSED-TAIL)) R(* WITH(RING))) SHARP(S) SIDEWAYS(DIAERESIZED(U) O(*",
  "WITH(STROKE)) OPEN(O) TURNED(M) U) SIGMOID(S) SQUAT(REVERSED(ESH)) STIRRUP(R) T(* WITH(CARON",
  "CEDILLA CIRCUMFLEX(BELOW) COMMA(BELOW) CURL DIAERESIS DIAGONAL(STROKE) DOT(ABOVE BELOW)",
  "HOOK(* AND(RETROFLEX(HOOK))) LINE(BELOW) MIDDLE(TILDE) PALATAL(HOOK) RETROFLEX(HOOK) STROKE))",
  "TAILLESS(PHI) TC(DIGRAPH(WITH(CURL))) TESH(DIGRAPH(* WITH(PALATAL(HOOK) RETROFLEX(HOOK))))",
  "TH(WITH(STRIKETHROUGH)) THORN(* WITH(STROKE(* THROUGH(DESCENDER)))) TONE(FIVE SIX TWO)",
  "TOP(HALF(O)) TRESILLO TS(DIGRAPH(* WITH(RETROFLEX(HOOK)))) TUM TURNED(A AE ALPHA DELTA E G",
  "H(* WITH(FISHHOOK(* AND(TAIL)))) I INSULAR(G) K L M(* WITH(LONG(LEG))) O(OPEN-O(*",
  "WITH(STROKE))) OE(* WITH(HORIZONTAL(STROKE) STROKE)) OPEN(E) R(* WITH(HOOK LONG(LEG(*",
  "AND(RETROFLEX(HOOK)))) MIDDLE(TILDE) PALATAL(HOOK) TAIL)) T(* WITH(CURL)) UI V W Y(*",
  "WITH(BELT))) TZ U(* BAR(* WITH(SHORT(RIGHT(LEG)))) WITH(ACUTE BREVE CARON CIRCUMFLEX(* BELOW)",
  "DIAERESIS(* AND(ACUTE CARON GRAVE MACRON) BELOW) DOT(BELOW) DOUBLE(ACUTE GRAVE) GRAVE",
  "HOOK(ABOVE) HORN(* AND(ACUTE DOT(BELOW) GRAVE HOOK(ABOVE) TILDE)) INVERTED(BREVE) LEFT(HOOK)",
  "MACRON(* AND(DIAERESIS)) OGONEK RETROFLEX(HOOK) RING(ABOVE) SHORT(RIGHT(LEG)) STROKE TILDE(*",
  "AND(ACUTE) BELOW))) UE UI UM UO UPSILON(* WITH(STROKE)) V(* WITH(CURL DIAGONAL(STROKE)",
  "DOT(BELOW) HOOK PALATAL(HOOK) RIGHT(HOOK) TILDE)) VEND VISIGOTHIC(Z) VOLAPUK(AE OE UE) VY W(*",
  "WITH(ACUTE CIRCUMFLEX DIAERESIS DOT(ABOVE BELOW) GRAVE HOOK RING(ABOVE))) X(* WITH(DIAERESIS",
  "DOT(ABOVE) LONG(LEFT(LEG(* AND(LOW(RIGHT(RING))) WITH(SERIF)))) LOW(RIGHT(RING))",
  "PALATAL(HOOK))) Y(* WITH(ACUTE CIRCUMFLEX DIAERESIS DOT(ABOVE BELOW) GRAVE HOOK(* ABOVE) LOOP",
  "MACRON RING(ABOVE) SHORT(RIGHT(LEG)) STROKE TILDE)) YOGH Z(* WITH(ACUTE CARON CIRCUMFLEX CURL",
  "DESCENDER DOT(ABOVE BELOW) HOOK LINE(BELOW) MIDDLE(TILDE) PALATAL(HOOK) RETROFLEX(HOOK)",
  "STROKE SWASH(TAIL)))) LIGATURE(FF FFI FFL FI FL IJ LONG(S(T)) OE ST))",
  "SUBSCRIPT(SMALL(LETTER(A E H I J K L M N O P R S SCHWA T U V X)))) LEAF(FLUTTERING(IN(WIND)))",
  "LEAFY(GREEN) LEDGER LEFT(AND(LOWER(AND(RIGHT(TRIANGULAR(THREE(QUARTERS(BLOCK)))))",
  "ONE(EIGHTH(BLOCK))) RIGHT(DOUBLE(TURNSTILE) TACK TRIANGULAR(HALF(BLOCK)))",
  "UPPER(AND(RIGHT(TRIANGULAR(THREE(QUARTERS(BLOCK))))) ONE(EIGHTH(BLOCK)))) ANGER(BUBBLE)",
  "ANGLE(BRACKET(* WITH(DOT))) ARC(LESS-THAN(BRACKET)) ARROW(WITH(CIRCLED(PLUS) SMALL(CIRCLE)))",
  "BARB(DOWN(RIGHT(BARB(DOWN(HARPOON) UP(HARPOON)))) UP(RIGHT(BARB(DOWN(HARPOON) UP(HARPOON)))))",
  "BLACK(LENTICULAR(BRACKET) TORTOISE(SHELL(BRACKET))) CEILING CLOSED(ENTRY) CORNER(BRACKET)",
  "CURLY(BRACKET(* LOWER(HOOK) MIDDLE(PIECE) UPPER(HOOK))) DOTTED(SUBSTITUTION(BRACKET))",
  "DOUBLE(ANGLE(BRACKET) PARENTHESIS QUOTATION(MARK) WIGGLY(FENCE)) FISH(TAIL)",
  "FIVE(EIGHTHS(BLOCK)) FLOOR HALF(BLACK(CIRCLE STAR) BLOCK CIRCLE(* WITH(DOT FOUR(DOTS)",
  "THREE(DOTS) TWO(DOTS))) FOLDER INVERSE(MEDIUM(SHADE(AND(RIGHT(HALF(BLOCK)))))) MEDIUM(SHADE)",
  "RUNNING(MAN)) HAND(TELEPHONE(RECEIVER)) LOW(PARAPHRASE(BRACKET)) LUGGAGE MULTIMAP",
  "NORMAL(FACTOR(SEMIDIRECT(PRODUCT))) ONE(EIGHTH(BLOCK) QUARTER(BLOCK)) OUTER(JOIN)",
  "PARENTHESIS(* EXTENSION LOWER(HOOK) UPPER(HOOK)) RAISED(OMISSION(BRACKET)) RIGHT(ARROW(*",
  "THROUGH(SMALL(CIRCLE)) WITH(DOUBLE(VERTICAL(STROKE)) STROKE VERTICAL(STROKE))) BLACK(ARROW)",
  "DOUBLE(ARROW(* WITH(STROKE VERTICAL(STROKE)))) OPEN-HEADED(ARROW) SANS-SERIF(ARROW)",
  "TRIANGLE-HEADED(ARROW) WAVE(ARROW) WHITE(ARROW)) S-SHAPED(BAG(DELIMITER)) SEMIDIRECT(PRODUCT)",
  "SEVEN(EIGHTHS(BLOCK)) SIDEWAYS(U(BRACKET)) SINGLE(QUOTATION(MARK)) SPEECH(BUBBLE)",
  "SQUARE(BRACKET(* EXTENSION LOWER(CORNER) UPPER(CORNER) WITH(DOUBLE(STROKE) QUILL STROKE",
  "TICK(IN(BOTTOM(CORNER) TOP(CORNER))) UNDERBAR))) SUBSTITUTION(BRACKET) TACK",
  "THIRD(WHITE(RIGHT(POINTING(INDEX)))) THOUGHT(BUBBLE) THREE(EIGHTHS(BLOCK) QUARTERS(BLOCK))",
  "TORTOISE(SHELL(BRACKET)) TRANSPOSITION(BRACKET) TRIANGLE(BESIDE(VERTICAL(BAR)))",
  "TRIANGULAR(ONE(QUARTER(BLOCK))) VERTICAL(BAR(WITH(QUILL)) BOX(LINE)) WHITE(CORNER(BRACKET)",
  "CURLY(BRACKET) LENTICULAR(BRACKET) PARENTHESIS SQUARE(BRACKET) TORTOISE(SHELL(BRACKET)))",
  "WIGGLY(FENCE) WRITING(HAND)) LEFT-FACING(ARMENIAN(ETERNITY(SIGN)) FIST SVASTI(SIGN(*",
  "WITH(DOTS)))) LEFT-HANDED(INTERLACED(PENTAGRAM)) LEFT-POINTING(ANGLE(BRACKET)",
  "CURVED(ANGLE(BRACKET)) DOUBLE(ANGLE(QUOTATION(MARK))) MAGNIFYING(GLASS))",
  "LEFT-SHADED(WHITE(RIGHTWARDS(ARROW))) LEFT-SIDE(ARC(ANTICLOCKWISE(ARROW)))",
  "LEFT-TO-RIGHT(EMBEDDING ISOLATE MARK OVERRIDE) LEFTWARDS(ARROW(* ABOVE(ALMOST(EQUAL(TO))",
  "REVERSE(ALMOST(EQUAL(TO)) TILDE(OPERATOR)) SHORT(RIGHTWARDS(ARROW)) TILDE(OPERATOR))",
  "AND(UPPER(AND(LOWER(ONE(EIGHTH(BLOCK)))))) FROM(BAR(* TO(BLACK(DIAMOND))))",
  "OVER(RIGHTWARDS(ARROW)) THROUGH(LESS-THAN SUBSET X) TO(BAR(*",
  "OVER(RIGHTWARDS(ARROW(TO(BAR))))) BLACK(DIAMOND)) WITH(DOTTED(STEM) DOUBLE(VERTICAL(STROKE))",
  "EQUILATERAL(ARROWHEAD) HOOK LARGE(TRIANGLE(ARROWHEAD)) LOOP MEDIUM(TRIANGLE(ARROWHEAD))",
  "NOTCHED(TAIL) PLUS(BELOW) SMALL(EQUILATERAL(ARROWHEAD) TRIANGLE(ARROWHEAD)) STROKE TAIL(*",
  "WITH(DOUBLE(VERTICAL(STROKE)) VERTICAL(STROKE))) TIP(DOWNWARDS UPWARDS) VERTICAL(STROKE)))",
  "ARROW-TAIL BACK-TILTED(SHADOWED(WHITE(ARROW))) BLACK(ARROW CIRCLED(WHITE(ARROW)))",
  "BOTTOM-SHADED(WHITE(ARROW)) COMPRESSED(ARROW) DASHED(ARROW) DOUBLE(ARROW(* FROM(BAR)",
  "WITH(STROKE VERTICAL(STROKE))) ARROW-TAIL DASH(ARROW)) FINGER-POST(ARROW)",
  "FRONT-TILTED(SHADOWED(WHITE(ARROW))) HAND HARPOON(OVER(RIGHTWARDS(HARPOON))",
  "WITH(BARB(DOWN(ABOVE(RIGHTWARDS(HARPOON(WITH(BARB(DOWN))))) BELOW(LONG(DASH)) FROM(BAR)",
  "TO(BAR)) DOWNWARDS UP(ABOVE(LEFTWARDS(HARPOON(WITH(BARB(DOWN)))) LONG(DASH)",
  "RIGHTWARDS(HARPOON(WITH(BARB(UP))))) FROM(BAR) TO(BAR)) UPWARDS))) HEAVY(ARROW",
  "COMPRESSED(ARROW)) LEFT-SHADED(WHITE(ARROW)) OPEN-HEADED(ARROW) PAIRED(ARROWS)",
  "QUADRUPLE(ARROW) RIGHT-SHADED(WHITE(ARROW)) ROCKET SANS-SERIF(ARROW) SQUARED(ARROW)",
  "SQUIGGLE(ARROW) TOP(SHADED(WHITE(ARROW))) TRIANGLE(ARROWHEAD) TRIANGLE-HEADED(ARROW(*",
  "OVER(RIGHTWARDS(TRIANGLE-HEADED(ARROW))) TO(BAR) WITH(BOLD(SHAFT) DOUBLE(HORIZONTAL(STROKE)",
  "VERTICAL(STROKE)) HEAVY(SHAFT) LONG(TIP(DOWNWARDS UPWARDS)) MEDIUM(SHAFT) NARROW(SHAFT)",
  "VERY(HEAVY(SHAFT)))) DASHED(ARROW) PAIRED(ARROWS)) TRIPLE(ARROW DASH(ARROW))",
  "TWO(HEADED(ARROW)) TWO-HEADED(ARROW(FROM(BAR) WITH(DOUBLE(VERTICAL(STROKE)) TAIL(*",
  "WITH(DOUBLE(VERTICAL(STROKE)) VERTICAL(STROKE))) TRIANGLE(ARROWHEADS) VERTICAL(STROKE)))",
  "TRIPLE(DASH(ARROW))) WAVE(ARROW) WHITE(ARROW(* WITHIN(TRIANGLE(ARROWHEAD))))) LEG LEMON LEO",
  "LEOPARD LEPCHA(CONSONANT(SIGN(K KANG L M N NYIN-DO P R T)) DIGIT(EIGHT FIVE FOUR NINE ONE",
  "SEVEN SIX THREE TWO ZERO) LETTER(A BA BLA CA CHA DA DDA DZA FA FLA GA GLA HA HLA JA KA KHA",
  "KLA LA MA MLA NA NGA NYA PA PHA PLA RA SA SHA TA THA TSA TSHA TTA TTHA VA WA YA)",
  "PUNCTUATION(CER-WA NYET(THYOOM(TA-ROL)) TA-ROL TSHOOK(* CER-WA)) SIGN(NUKTA RAN)",
  "SUBJOINED(LETTER(RA YA)) VOWEL(SIGN(AA E I O OO U UU)))",
  "LESS-THAN(ABOVE(DOUBLE-LINE(EQUAL(ABOVE(GREATER-THAN)))",
  "GREATER-THAN(ABOVE(DOUBLE-LINE(EQUAL))) LEFTWARDS(ARROW) SIMILAR(ABOVE(GREATER-THAN)",
  "OR(EQUAL)) SLANTED(EQUAL(ABOVE(GREATER-THAN(ABOVE(SLANTED(EQUAL))))))) AND(NOT(APPROXIMATE)",
  "SINGLE-LINE(NOT(EQUAL(TO)))) BUT(NOT(EQUAL(TO) EQUIVALENT(TO))) CLOSED(BY(CURVE(*",
  "ABOVE(SLANTED(EQUAL))))) EQUAL(TO(OR(GREATER-THAN))) OR(APPROXIMATE EQUAL(TO) EQUIVALENT(TO)",
  "GREATER-THAN SLANTED(EQUAL(TO(* WITH(DOT(ABOVE(* RIGHT) INSIDE)))))) OVER(EQUAL(TO)) SIGN",
  "WITH(CIRCLE(INSIDE) DOT QUESTION(MARK(ABOVE)))) LEVEL(SLIDER) LF LIBRA",
  "LIGATURE(OPEN(ET(ORNAMENT))) LIGHT(CHECK(MARK) EIGHT(SPOKED(ASTERISK))",
  "FIVE(POINTED(BLACK(STAR)) SPOKED(ASTERISK)) FOUR(POINTED(BLACK(CUSP STAR))) GREEK(CROSS)",
  "LEFT(TORTOISE(SHELL(BRACKET(ORNAMENT)))) RAIL RIGHT(TORTOISE(SHELL(BRACKET(ORNAMENT))))",
  "SALTIRE SHADE SIX(SPOKED(ASTERISK)) THREE(POINTED(BLACK(STAR))) TWELVE(POINTED(BLACK(STAR)))",
  "VERTICAL(BAR) WHITE(SQUARE)) LIGHTNING(* MOOD(* BUBBLE)) LIMBU(DIGIT(EIGHT FIVE FOUR NINE ONE",
  "SEVEN SIX THREE TWO ZERO) EXCLAMATION(MARK) LETTER(BA BHA CA CHA DA DHA GA GHA GYAN HA JA JHA",
  "KA KHA LA MA NA NGA PA PHA RA SA SHA SSA TA THA TRA WA YA YAN) QUESTION(MARK) SIGN(KEMPHRENG",
  "LOO MUKPHRENG SA-I) SMALL(LETTER(ANUSVARA KA LA MA NA NGA PA RA TA)) SUBJOINED(LETTER(RA WA",
  "YA)) VOWEL(SIGN(A AI AU E EE I O OO U)) VOWEL-CARRIER(LETTER)) LIMITED(LIABILITY(SIGN))",
  "LINE(FEED INTEGRATION(NOT(INCLUDING(THE(POLE))) WITH(RECTANGULAR(PATH(AROUND(POLE)))",
  "SEMICIRCULAR(PATH(AROUND(POLE))))) SEPARATOR TABULATION(* SET)) LINEAR(A(SIGN(A028B A100-102",
  "A120B A131C A301 A302 A303 A304 A305 A306 A307 A308 A309A A309B A309C A310 A311 A312 A313A",
  "A313B A313C A314 A315 A316 A317 A318 A319 A320 A321 A322 A323 A324 A325 A326 A327 A328 A329",
  "A330 A331 A332 A333 A334 A335 A336 A337 A338 A339 A340 A341 A342 A343 A344 A345 A346 A347",
  "A348 A349 A350 A351 A352 A353 A354 A355 A356 A357 A358 A359 A360 A361 A362 A363 A364 A365",
  "A366 A367 A368 A369 A370 A371 A400-VAS A401-VAS A402-VAS A403-VAS A404-VAS A405-VAS A406-VAS",
  "A407-VAS A408-VAS A409-VAS A410-VAS A411-VAS A412-VAS A413-VAS A414-VAS A415-VAS A416-VAS",
  "A417-VAS A418-VAS A501 A502 A503 A504 A505 A506 A508 A509 A510 A511 A512 A513 A515 A516 A520",
  "A521 A523 A524 A525 A526 A527 A528 A529 A530 A531 A532 A534 A535 A536 A537 A538 A539 A540",
  "A541 A542 A545 A547 A548 A549 A550 A551 A552 A553 A554 A555 A556 A557 A559 A563 A564 A565",
  "A566 A568 A569 A570 A571 A572 A573 A574 A575 A576 A577 A578 A579 A580 A581 A582 A583 A584",
  "A585 A586 A587 A588 A589 A591 A592 A594 A595 A596 A598 A600 A601 A602 A603 A604 A606 A608",
  "A609 A610 A611 A612 A613 A614 A615 A616 A617 A618 A619 A620 A621 A622 A623 A624 A626 A627",
  "A628 A629 A634 A637 A638 A640 A642 A643 A644 A645 A646 A648 A649 A651 A652 A653 A654 A655",
  "A656 A657 A658 A659 A660 A661 A662 A663 A664 A701(A) A702(B) A703(D) A704(E) A705(F) A706(H)",
  "A707(J) A708(K) A709(L) A709-2(L2) A709-3(L3) A709-4(L4) A709-6(L6) A710(W) A711(X) A712(Y)",
  "A713(OMEGA) A714(ABB) A715(BB) A717(DD) A726(EYYY) A732(JE) A800 A801 A802 A803 A804 A805",
  "A806 A807 AB001 AB002 AB003 AB004 AB005 AB006 AB007 AB008 AB009 AB010 AB011 AB013 AB016 AB017",
  "AB020 AB021 AB021F AB021M AB022 AB022F AB022M AB023 AB023M AB024 AB026 AB027 AB028 AB029",
  "AB030 AB031 AB034 AB037 AB038 AB039 AB040 AB041 AB044 AB045 AB046 AB047 AB048 AB049 AB050",
  "AB051 AB053 AB054 AB055 AB056 AB057 AB058 AB059 AB060 AB061 AB065 AB066 AB067 AB069 AB070",
  "AB073 AB074 AB076 AB077 AB078 AB079 AB080 AB081 AB082 AB085 AB086 AB087 AB118 AB120 AB122",
  "AB123 AB131A AB131B AB164 AB171 AB180 AB188 AB191)) B(IDEOGRAM(B100(MAN) B102(WOMAN)",
  "B104(DEER) B105(EQUID) B105F(MARE) B105M(STALLION) B106F(EWE) B106M(RAM) B107F(SHE-GOAT)",
  "B107M(HE-GOAT) B108F(SOW) B108M(BOAR) B109F(COW) B109M(BULL) B120(WHEAT) B121(BARLEY)",
  "B122(OLIVE) B123(SPICE) B125(CYPERUS) B130(OIL) B131(WINE) B132 B140(BRONZE) B141(GOLD) B142",
  "B145(WOOL) B146 B150 B151(HORN) B152 B153 B154 B157 B158 B159(CLOTH) B160 B161 B162(GARMENT)",
  "B163(ARMOUR) B164 B165 B166 B167 B168 B169 B170 B171 B172 B173(MONTH) B174 B176(TREE) B177",
  "B178 B179 B180 B181 B182 B183 B184 B185 B189 B190 B191(HELMET) B220(FOOTSTOOL) B225(BATHTUB)",
  "B230(SPEAR) B231(ARROW) B232 B233(SWORD) B234 B236 B240(WHEELED(CHARIOT)) B241(CHARIOT)",
  "B242(CHARIOT(FRAME)) B243(WHEEL) B245 B246 B248 B249 B251 B252 B253 B254(DART) B255 B256 B257",
  "B258 B259 VESSEL(B155 B200 B201 B202 B203 B204 B205 B206 B207 B208 B209 B210 B211 B212 B213",
  "B214 B215 B216 B217 B218 B219 B221 B222 B226 B227 B228 B229 B250 B305)) MONOGRAM(B127(KAPO)",
  "B128(KANAKO) B133(AREPA) B135(MERI) B156(TURO2) B247(DIPTE)) SYLLABLE(B001(DA) B002(RO)",
  "B003(PA) B004(TE) B005(TO) B006(NA) B007(DI) B008(A) B009(SE) B010(U) B011(PO) B012(SO)",
  "B013(ME) B014(DO) B015(MO) B016(QA) B017(ZA) B020(ZO) B021(QI) B023(MU) B024(NE) B025(A2)",
  "B026(RU) B027(RE) B028(I) B029(PU2) B030(NI) B031(SA) B032(QO) B033(RA3) B036(JO) B037(TI)",
  "B038(E) B039(PI) B040(WI) B041(SI) B042(WO) B043(A3) B044(KE) B045(DE) B046(JE) B048(NWA)",
  "B050(PU) B051(DU) B052(NO) B053(RI) B054(WA) B055(NU) B057(JA) B058(SU) B059(TA) B060(RA)",
  "B061(O) B062(PTE) B065(JU) B066(TA2) B067(KI) B068(RO2) B069(TU) B070(KO) B071(DWE) B072(PE)",
  "B073(MI) B074(ZE) B075(WE) B076(RA2) B077(KA) B078(QE) B080(MA) B081(KU) B085(AU) B087(TWE)",
  "B090(DWO) B091(TWO)) SYMBOL(B018 B019 B022 B034 B047 B049 B056 B063 B064 B079 B082 B083 B086",
  "B089))) LINK(SYMBOL) LINKED(PAPERCLIPS) LION(FACE) LIPS LIPSTICK LIRA(SIGN) LISU(LETTER(A AE",
  "BA CA CHA DA DZA E EU FA GA GHA HA HHA I JA KA KHA LA MA NA NGA O OE PA PHA SA SHA TA THA",
  "TONE(MYA(BO CYA JEU NA TI) NA(PO)) TSA TSHA U UE UH WA XA YA YHA ZA ZHA) PUNCTUATION(COMMA",
  "FULL(STOP))) LIVRE(TOURNOIS(SIGN)) LIZARD LLAMA LOBSTER LOCK(* WITH(INK(PEN)))",
  "LOCKING-SHIFT(ONE ZERO) LOGICAL(AND(* WITH(DOT(ABOVE) DOUBLE(OVERBAR UNDERBAR)",
  "HORIZONTAL(DASH) MIDDLE(STEM) UNDERBAR)) OR(* OVERLAPPING(LOGICAL(AND)) WITH(DOT(ABOVE)",
  "DOUBLE(OVERBAR UNDERBAR) HORIZONTAL(DASH) MIDDLE(STEM)))) LOLLIPOP",
  "LONG(DASH(FROM(LEFT(MEMBER(OF(DOUBLE(VERTICAL)))))) DIVISION DRUM LEFT(RIGHT(ARROW",
  "DOUBLE(ARROW)) TACK) LEFTWARDS(ARROW(* FROM(BAR)) DOUBLE(ARROW(* FROM(BAR))) SQUIGGLE(ARROW))",
  "RIGHT(TACK) RIGHTWARDS(ARROW(* FROM(BAR)) DOUBLE(ARROW(* FROM(BAR))) SQUIGGLE(ARROW)))",
  "LOTION(BOTTLE) LOTUS LOUDLY(CRYING(FACE)) LOVE(HOTEL LETTER) LOW(ASTERISK BATTERY",
  "BRIGHTNESS(SYMBOL) DOUBLE(PRIME(QUOTATION(MARK))) KAVYKA(* WITH(DOT)) LINE)",
  "LOWER(BLADE(SCISSORS) FIVE(EIGHTHS(BLOCK)) HALF(BLOCK CIRCLE INVERSE(WHITE(CIRCLE))",
  "MEDIUM(SHADE)) LEFT(BALLPOINT(PEN) BLOCK(DIAGONAL(LOWER(MIDDLE(LEFT(TO(LOWER(CENTRE",
  "RIGHT))))) UPPER(CENTRE(TO(LOWER(MIDDLE(RIGHT) RIGHT) UPPER(MIDDLE(RIGHT))))",
  "LEFT(TO(LOWER(CENTRE MIDDLE(RIGHT)) UPPER(MIDDLE(RIGHT)))) MIDDLE(LEFT(TO(LOWER(CENTRE",
  "MIDDLE(RIGHT) RIGHT))))))) CRAYON FOUNTAIN(PEN) PAINTBRUSH PENCIL QUADRANT(CIRCULAR(ARC))",
  "SEMICIRCULAR(ANTICLOCKWISE(ARROW)) TRIANGLE TRIANGULAR(MEDIUM(SHADE))) ONE(EIGHTH(BLOCK)",
  "QUARTER(BLOCK)) RIGHT(BLOCK(DIAGONAL(LOWER(CENTRE(TO(LOWER(MIDDLE(RIGHT)) UPPER(MIDDLE(RIGHT)",
  "RIGHT))) LEFT(TO(LOWER(MIDDLE(RIGHT)) UPPER(CENTRE MIDDLE(RIGHT))))",
  "MIDDLE(LEFT(TO(UPPER(CENTRE MIDDLE(RIGHT) RIGHT))))) UPPER(MIDDLE(LEFT(TO(UPPER(CENTRE",
  "RIGHT))))))) CORNER(WITH(DOT)) DROP-SHADOWED(WHITE(SQUARE)) PENCIL QUADRANT(CIRCULAR(ARC))",
  "SEMICIRCULAR(CLOCKWISE(ARROW)) SHADOWED(WHITE(CIRCLE SQUARE)) TRIANGLE",
  "TRIANGULAR(MEDIUM(SHADE))) SEVEN(EIGHTHS(BLOCK)) THREE(EIGHTHS(BLOCK) QUARTERS(BLOCK))",
  "TRIANGULAR(ONE(QUARTER(BLOCK)))) LOZENGE(* DIVIDED(BY(HORIZONTAL(RULE)))) LRE LRI LRM LRO",
  "LUGGAGE LUNGS LYCIAN(LETTER(A AN B BH D E EN G H I J K KK L M MM N NN P Q R S T TH TT U W X",
  "Z)) LYDIAN(LETTER(A AN B C D E EN F G I K L LY M N NN O Q R S SS T TT U V Y)",
  "TRIANGULAR(MARK)) LYING(FACE)"]

/-- The names that start with M. -/
def characterNamesM : List String := [
  "MACRON MAGE MAGIC(WAND) MAGNET MAHAJANI(ABBREVIATION(SIGN) LETTER(A BA BHA CA CHA DA DDA DDHA",
  "DHA E GA GHA HA I JA JHA KA KHA LA MA NA NNA NYA O PA PHA RA RRA SA TA THA TTA TTHA U VA)",
  "LIGATURE(SHRI) SECTION(MARK) SIGN(NUKTA)) MAHJONG(TILE(AUTUMN BACK BAMBOO CHRYSANTHEMUM",
  "EAST(WIND) EIGHT(OF(BAMBOOS CHARACTERS CIRCLES)) FIVE(OF(BAMBOOS CHARACTERS CIRCLES))",
  "FOUR(OF(BAMBOOS CHARACTERS CIRCLES)) GREEN(DRAGON) JOKER NINE(OF(BAMBOOS CHARACTERS CIRCLES))",
  "NORTH(WIND) ONE(OF(BAMBOOS CHARACTERS CIRCLES)) ORCHID PLUM RED(DRAGON) SEVEN(OF(BAMBOOS",
  "CHARACTERS CIRCLES)) SIX(OF(BAMBOOS CHARACTERS CIRCLES)) SOUTH(WIND) SPRING SUMMER",
  "THREE(OF(BAMBOOS CHARACTERS CIRCLES)) TWO(OF(BAMBOOS CHARACTERS CIRCLES)) WEST(WIND)",
  "WHITE(DRAGON) WINTER)) MAKASAR(ANGKA END(OF(SECTION)) LETTER(A BA CA DA GA JA KA LA MA NA NGA",
  "NYA PA RA SA TA VA YA) PASSIMBANG VOWEL(SIGN(E I O U))) MALAYALAM(AU(LENGTH(MARK)) DATE(MARK)",
  "DIGIT(EIGHT FIVE FOUR NINE ONE SEVEN SIX THREE TWO ZERO) FRACTION(ONE(EIGHTH FIFTH FORTIETH",
  "HALF ONE-HUNDRED-AND-SIXTIETH QUARTER SIXTEENTH TENTH TWENTIETH) THREE(EIGHTIETHS QUARTERS",
  "SIXTEENTHS TWENTIETHS)) LETTER(A AA AI ARCHAIC(II) AU BA BHA CA CHA CHILLU(K L LL LLL M N NN",
  "RR Y) DA DDA DDHA DHA DOT(REPH) E EE GA GHA HA I II JA JHA KA KHA LA LLA LLLA MA NA NGA NNA",
  "NNNA NYA O OO PA PHA RA RRA SA SHA SSA TA THA TTA TTHA TTTA U UU VA VEDIC(ANUSVARA) VOCALIC(L",
  "LL R RR) YA) NUMBER(ONE(HUNDRED THOUSAND) TEN) SIGN(ANUSVARA AVAGRAHA CANDRABINDU",
  "CIRCULAR(VIRAMA) COMBINING(ANUSVARA(ABOVE)) PARA VERTICAL(BAR(VIRAMA)) VIRAMA VISARGA)",
  "VOWEL(SIGN(AA AI AU E EE I II O OO U UU VOCALIC(L LL R RR)))) MALE(AND(FEMALE(SIGN)) SIGN",
  "WITH(STROKE(AND(MALE(AND(FEMALE(SIGN)))) SIGN))) MALTESE(CROSS) MAMMOTH MAN(*",
  "AND(WOMAN(HOLDING(HANDS))) DANCING IN(BUSINESS(SUIT(LEVITATING)) TUXEDO) WITH(GUA(PI(MAO))",
  "TURBAN)) MANAT(SIGN) MANDAIC(AFFRICATION(MARK) GEMINATION(MARK) LETTER(AB AD AG AH AIN AK",
  "AKSA AL AM AN AP AQ AR AS ASH ASZ AT ATT AZ DUSHENNA HALQA IN IT KAD USHENNA) PUNCTUATION",
  "VOCALIZATION(MARK)) MANGO MANICHAEAN(ABBREVIATION(MARK(ABOVE BELOW)) LETTER(AAYIN ALEPH AYIN",
  "BETH BHETH DALETH DHAMEDH FE GHIMEL GIMEL HE HETH JAYIN JHAYIN KAPH KHAPH LAMEDH MEM NUN PE",
  "QHOPH QOPH RESH SADHE SAMEKH SHIN SSHIN TAW TETH THAMEDH WAW XAPH XOPH YODH ZAYIN ZHAYIN)",
  "NUMBER(FIVE ONE(* HUNDRED) TEN TWENTY) PUNCTUATION(DOT(* WITHIN(DOT))",
  "DOUBLE(DOT(WITHIN(DOT))) FLEURON LINE(FILLER) STAR TWO(DOTS)) SIGN(UD)) MANS(SHOE)",
  "MANTELPIECE(CLOCK) MANUAL(WHEELCHAIR) MAP(SYMBOL(FOR(LIGHTHOUSE))) MAPLE(LEAF)",
  "MARCHEN(HEAD(MARK) LETTER(-A A BA CA CHA DA DZA GA HA JA KA KHA LA MA NA NGA NYA PA PHA RA SA",
  "SHA TA THA TSA TSHA WA YA ZA ZHA) MARK(SHAD) SIGN(ANUSVARA CANDRABINDU) SUBJOINED(LETTER(A BA",
  "CA CHA DA DZA GA HA JA KA KHA LA MA NA NGA NYA PA PHA RA SA SHA TA THA TSA TSHA WA YA ZA",
  "ZHA)) VOWEL(SIGN(AA E I O U))) MARRIAGE(SYMBOL) MARTIAL(ARTS(UNIFORM))",
  "MASARAM(GONDI(DIGIT(EIGHT FIVE FOUR NINE ONE SEVEN SIX THREE TWO ZERO) LETTER(A AA AI AU BA",
  "BHA CA CHA DA DDA DDHA DHA E GA GHA HA I II JA JHA JNYA KA KHA KSSA LA LLA MA NA NGA NNA NYA",
  "O PA PHA RA SA SHA SSA TA THA TRA TTA TTHA U UU VA YA) RA-KARA REPHA SIGN(ANUSVARA CANDRA",
  "HALANTA NUKTA VISARGA) VIRAMA VOWEL(SIGN(AA AI AU E I II O U UU VOCALIC(R)))))",
  "MASCULINE(ORDINAL(INDICATOR)) MASK(WORK(SYMBOL)) MASU(MARK) MATE(DRINK)",
  "MATHEMATICAL(BOLD(CAPITAL(A ALPHA B BETA C CHI D DELTA DIGAMMA E EPSILON ETA F G GAMMA H I",
  "IOTA J K KAPPA L LAMDA M MU N NU O OMEGA OMICRON P PHI PI PSI Q R RHO S SIGMA T TAU THETA(*",
  "SYMBOL) U UPSILON V W X XI Y Z ZETA) DIGIT(EIGHT FIVE FOUR NINE ONE SEVEN SIX THREE TWO ZERO)",
  "EPSILON(SYMBOL) FRAKTUR(CAPITAL(A B C D E F G H I J K L M N O P Q R S T U V W X Y Z) SMALL(A",
  "B C D E F G H I J K L M N O P Q R S T U V W X Y Z)) ITALIC(CAPITAL(A ALPHA B BETA C CHI D",
  "DELTA E EPSILON ETA F G GAMMA H I IOTA J K KAPPA L LAMDA M MU N NU O OMEGA OMICRON P PHI PI",
  "PSI Q R RHO S SIGMA T TAU THETA(* SYMBOL) U UPSILON V W X XI Y Z ZETA) EPSILON(SYMBOL)",
  "KAPPA(SYMBOL) NABLA PARTIAL(DIFFERENTIAL) PHI(SYMBOL) PI(SYMBOL) RHO(SYMBOL) SMALL(A ALPHA B",
  "BETA C CHI D DELTA E EPSILON ETA F FINAL(SIGMA) G GAMMA H I IOTA J K KAPPA L LAMDA M MU N NU",
  "O OMEGA OMICRON P PHI PI PSI Q R RHO S SIGMA T TAU THETA U UPSILON V W X XI Y Z ZETA)",
  "THETA(SYMBOL)) KAPPA(SYMBOL) NABLA PARTIAL(DIFFERENTIAL) PHI(SYMBOL) PI(SYMBOL) RHO(SYMBOL)",
  "SCRIPT(CAPITAL(A B C D E F G H I J K L M N O P Q R S T U V W X Y Z) SMALL(A B C D E F G H I J",
  "K L M N O P Q R S T U V W X Y Z)) SMALL(A ALPHA B BETA C CHI D DELTA DIGAMMA E EPSILON ETA F",
  "FINAL(SIGMA) G GAMMA H I IOTA J K KAPPA L LAMDA M MU N NU O OMEGA OMICRON P PHI PI PSI Q R",
  "RHO S SIGMA T TAU THETA U UPSILON V W X XI Y Z ZETA) THETA(SYMBOL)) DOUBLE-STRUCK(CAPITAL(A B",
  "D E F G I J K L M O S T U V W X Y) DIGIT(EIGHT FIVE FOUR NINE ONE SEVEN SIX THREE TWO ZERO)",
  "SMALL(A B C D E F G H I J K L M N O P Q R S T U V W X Y Z)) FALLING(DIAGONAL)",
  "FRAKTUR(CAPITAL(A B D E F G J K L M N O P Q S T U V W X Y) SMALL(A B C D E F G H I J K L M N",
  "O P Q R S T U V W X Y Z)) ITALIC(CAPITAL(A ALPHA B BETA C CHI D DELTA E EPSILON ETA F G GAMMA",
  "H I IOTA J K KAPPA L LAMDA M MU N NU O OMEGA OMICRON P PHI PI PSI Q R RHO S SIGMA T TAU",
  "THETA(* SYMBOL) U UPSILON V W X XI Y Z ZETA) EPSILON(SYMBOL) KAPPA(SYMBOL) NABLA",
  "PARTIAL(DIFFERENTIAL) PHI(SYMBOL) PI(SYMBOL) RHO(SYMBOL) SMALL(A ALPHA B BETA C CHI D DELTA",
  "DOTLESS(I J) E EPSILON ETA F FINAL(SIGMA) G GAMMA I IOTA J K KAPPA L LAMDA M MU N NU O OMEGA",
  "OMICRON P PHI PI PSI Q R RHO S SIGMA T TAU THETA U UPSILON V W X XI Y Z ZETA) THETA(SYMBOL))",
  "LEFT(ANGLE(BRACKET) DOUBLE(ANGLE(BRACKET)) FLATTENED(PARENTHESIS) WHITE(SQUARE(BRACKET)",
  "TORTOISE(SHELL(BRACKET)))) MONOSPACE(CAPITAL(A B C D E F G H I J K L M N O P Q R S T U V W X",
  "Y Z) DIGIT(EIGHT FIVE FOUR NINE ONE SEVEN SIX THREE TWO ZERO) SMALL(A B C D E F G H I J K L M",
  "N O P Q R S T U V W X Y Z)) RIGHT(ANGLE(BRACKET) DOUBLE(ANGLE(BRACKET))",
  "FLATTENED(PARENTHESIS) WHITE(SQUARE(BRACKET) TORTOISE(SHELL(BRACKET)))) RISING(DIAGONAL)",
  "SANS-SERIF(BOLD(CAPITAL(A ALPHA B BETA C CHI D DELTA E EPSILON ETA F G GAMMA H I IOTA J K",
  "KAPPA L LAMDA M MU N NU O OMEGA OMICRON P PHI PI PSI Q R RHO S SIGMA T TAU THETA(* SYMBOL) U",
  "UPSILON V W X XI Y Z ZETA) DIGIT(EIGHT FIVE FOUR NINE ONE SEVEN SIX THREE TWO ZERO)",
  "EPSILON(SYMBOL) ITALIC(CAPITAL(A ALPHA B BETA C CHI D DELTA E EPSILON ETA F G GAMMA H I IOTA",
  "J K KAPPA L LAMDA M MU N NU O OMEGA OMICRON P PHI PI PSI Q R RHO S SIGMA T TAU THETA(*",
  "SYMBOL) U UPSILON V W X XI Y Z ZETA) EPSILON(SYMBOL) KAPPA(SYMBOL) NABLA",
  "PARTIAL(DIFFERENTIAL) PHI(SYMBOL) PI(SYMBOL) RHO(SYMBOL) SMALL(A ALPHA B BETA C CHI D DELTA E",
  "EPSILON ETA F FINAL(SIGMA) G GAMMA H I IOTA J K KAPPA L LAMDA M MU N NU O OMEGA OMICRON P PHI",
  "PI PSI Q R RHO S SIGMA T TAU THETA U UPSILON V W X XI Y Z ZETA) THETA(SYMBOL)) KAPPA(SYMBOL)",
  "NABLA PARTIAL(DIFFERENTIAL) PHI(SYMBOL) PI(SYMBOL) RHO(SYMBOL) SMALL(A ALPHA B BETA C CHI D",
  "DELTA E EPSILON ETA F FINAL(SIGMA) G GAMMA H I IOTA J K KAPPA L LAMDA M MU N NU O OMEGA",
  "OMICRON P PHI PI PSI Q R RHO S SIGMA T TAU THETA U UPSILON V W X XI Y Z ZETA) THETA(SYMBOL))",
  "CAPITAL(A B C D E F G H I J K L M N O P Q R S T U V W X Y Z) DIGIT(EIGHT FIVE FOUR NINE ONE",
  "SEVEN SIX THREE TWO ZERO) ITALIC(CAPITAL(A B C D E F G H I J K L M N O P Q R S T U V W X Y Z)",
  "SMALL(A B C D E F G H I J K L M N O P Q R S T U V W X Y Z)) SMALL(A B C D E F G H I J K L M N",
  "O P Q R S T U V W X Y Z)) SCRIPT(CAPITAL(A C D G J K N O P Q S T U V W X Y Z) SMALL(A B C D F",
  "H I J K L M N P Q R S T U V W X Y Z))) MAXIMIZE MAYAN(NUMERAL(EIGHT EIGHTEEN ELEVEN FIFTEEN",
  "FIVE FOUR FOURTEEN NINE NINETEEN ONE SEVEN SEVENTEEN SIX SIXTEEN TEN THIRTEEN THREE TWELVE",
  "TWO ZERO)) MEASURED(ANGLE(* OPENING(LEFT)",
  "WITH(OPEN(ARM(ENDING(IN(ARROW(POINTING(DOWN(AND(LEFT RIGHT)) LEFT(AND(DOWN UP))",
  "RIGHT(AND(DOWN UP)) UP(AND(LEFT RIGHT)))))))))) BY RIGHT(ANGLE(WITH(DOT)))) MEAT(ON(BONE))",
  "MECHANICAL(ARM LEG) MEDEFAIDRIN(CAPITAL(LETTER(A AI ATIU B C D E F G H HP I J K KP L M N NG",
  "NY O OE P Q R S T U V W X Y YU Z)) COMMA DIGIT(EIGHT FIVE FOUR NINE ONE(* ALTERNATE(FORM))",
  "SEVEN SIX THREE(* ALTERNATE(FORM)) TWO(* ALTERNATE(FORM)) ZERO) EXCLAMATION(OH) FULL(STOP)",
  "NUMBER(EIGHTEEN ELEVEN FIFTEEN FOURTEEN NINETEEN SEVENTEEN SIXTEEN TEN THIRTEEN TWELVE)",
  "SMALL(LETTER(A AI ATIU B C D E F G H HP I J K KP L M N NG NY O OE P Q R S T U V W X Y YU Z))",
  "SYMBOL(AIVA)) MEDIEVAL(COMMA EXCLAMATION(MARK) QUESTION(MARK)) MEDIUM(BLACK(CIRCLE)",
  "BOLD(WHITE(CIRCLE)) EIGHT(POINTED(BLACK(STAR)) SPOKED(ASTERISK)) FIVE(SPOKED(ASTERISK))",
  "FLATTENED(LEFT(PARENTHESIS(ORNAMENT)) RIGHT(PARENTHESIS(ORNAMENT))) FOUR(POINTED(BLACK(STAR)",
  "PINWHEEL(STAR))) GREEK(CROSS) LEFT(CURLY(BRACKET(ORNAMENT)) PARENTHESIS(ORNAMENT))",
  "LEFT-POINTING(ANGLE(BRACKET(ORNAMENT))) MATHEMATICAL(SPACE) RIGHT(CURLY(BRACKET(ORNAMENT))",
  "PARENTHESIS(ORNAMENT)) RIGHT-POINTING(ANGLE(BRACKET(ORNAMENT))) SALTIRE SHADE",
  "SIX(POINTED(BLACK(STAR)) SPOKED(ASTERISK)) SMALL(WHITE(CIRCLE)) THREE(POINTED(BLACK(STAR)",
  "PINWHEEL(STAR))) VERTICAL(BAR) WHITE(CIRCLE SQUARE)) MEETEI(MAYEK(AHANG(KHUDAM) ANJI",
  "APUN(IYEK) CHEIKHAN CHEIKHEI DIGIT(EIGHT FIVE FOUR NINE ONE SEVEN SIX THREE TWO ZERO)",
  "LETTER(ATIYA BA BHAM CHA CHIL DDA DDHA DHOU DIL E GHOU GOK HUK I(* LONSUM) JHAM JIL KHOU",
  "KOK(* LONSUM) LAI(* LONSUM) MIT(* LONSUM) NA(* LONSUM) NGOU(* LONSUM) NNA NYA O PA(* LONSUM)",
  "PHAM RAI SAM SHA SSA THOU TIL(* LONSUM) TTA TTHA UN WAI YANG) LUM(IYEK)",
  "SYLLABLE(REPETITION(MARK)) VIRAMA VOWEL(SIGN(AAI AAU ANAP AU CHEINAP II INAP NUNG ONAP SOUNAP",
  "UNAP UU VISARGA YENAP)) WORD(REPETITION(MARK)))) MELON MELTING(FACE) MEMO",
  "MENDE(KIKAKUI(COMBINING(NUMBER(HUNDRED(THOUSANDS) HUNDREDS MILLIONS TEENS TEN(THOUSANDS) TENS",
  "THOUSANDS)) DIGIT(EIGHT FIVE FOUR NINE ONE SEVEN SIX THREE TWO) SYLLABLE(M001(KI) M002(KA)",
  "M003(KU) M004(WI) M005(WA) M006(WU) M007(MIN) M008(MAN) M009(MUN) M010(BI) M011(BA) M012(BU)",
  "M013(I) M014(A) M015(U) M016(DI) M017(DA) M018(DU) M019(SI) M020(SA) M021(SU) M022(TI)",
  "M023(TA) M024(TU) M025(LI) M026(LA) M027(LU) M028(JI) M029(JA) M030(JU) M031(YI) M032(YA)",
  "M033(YU) M034(FI) M035(FA) M036(FU) M037(NIN) M038(NAN) M039(NUN) M040(HEE) M041(HA)",
  "M042(HOO) M043(NGGA) M044(KPEE) M045(WO) M046(HUAN) M047(MBEE) M048(KO) M049(WVA) M050(PU)",
  "M051(PE) M052(HEN) M053(HIN) M054(LOO) M055(TE) M056(GBA) M057(NGON) M058(NYAN) M059(MEN)",
  "M060(NYON) M061(WVI) M062(MBA) M063(JO) M064(NDO) M065(KEE) M066(PO) M067(NDOO) M068(PI)",
  "M069(TO) M070(GBO) M071(GBOO) M072(MBE) M073(LE) M074(KPU) M075(FE) M076(KOO) M077(VO)",
  "M078(FEE) M079(SO) M080(YE) M081(PEE) M082(NGGU) M083(HEEI) M084(LEE) M085(VE)",
  "M086(LONG(NGGE)) M087(HUN) M088(FO) M089(DEE) M090(NGGI) M091(TEE) M092(KPA) M093(GBEE)",
  "M094(MON) M095(KE) M096(HE) M097(BE) M098(NYEN) M099(PA) M100(E) M101(FAN) M102(POO)",
  "M103(BOO) M104(TOO) M105(LONG(MBOO)) M106(LONG(NGGOO)) M107(GBE) M108(KPE) M109(YEE)",
  "M110(LONG(LE)) M111(GA) M112(KPOO) M113(JE) M114(WOO) M115(NGGEE) M116(SE) M117(NEN) M118(WE)",
  "M119(NDE) M120(NGGO) M121(YO) M122(MBU) M123(NDI) M124(GBI) M125(NDU) M126(WEE) M127(NGGUA)",
  "M128(HOOU) M129(NDA) M130(HAN) M131(IN) M132(KPI) M133(FOO) M134(NJOO) M135(IN) M136(SOO)",
  "M137(EI) M138(BO) M139(WVE) M140(HO) M141(YOO) M142(LONG(MBO)) M143(WEI) M144(VOO) M145(MBI)",
  "M146(NGGE) M147(O) M148(GBU) M149(NJEE) M150(BEE) M151(VU) M152(NJA) M153(LO) M154(MUAN)",
  "M155(GI) M156(NGGOO) M157(JEE) M158(KPO) M159(NGGAA) M160(JOO) M161(LONG(MBE)) M162(SEE)",
  "M163(EE) M164(NYIN) M165(OO) M166(GUEI) M167(GUAN) M168(GU) M169(NON) M170(NYUN) M171(RA)",
  "M172(MBOO) M173(VEE) M174(MBO) M175(LONG(JO)) M176(HI) M177(NGUAN) M178(EN) M179(KUA)",
  "M180(DOO) M181(DO) M182(VI) M183(LONG(NGGO)) M184(NGEN) M185(VA) M186(HU) M187(MBUU)",
  "M188(MBEE) M189(MUEN) M190(GEE) M191(NDEE) M192(NJU) M193(HON) M194(WUI) M195(AN) M196(SIA)",
  "M197(FUA)))) MENORAH(WITH(NINE(BRANCHES))) MENS(SYMBOL) MERCURY",
  "MEROITIC(CURSIVE(FRACTION(EIGHT(TWELFTHS) ELEVEN(TWELFTHS) FIVE(TWELFTHS) FOUR(TWELFTHS)",
  "NINE(TWELFTHS) ONE(HALF TWELFTH) SEVEN(TWELFTHS) SIX(TWELFTHS) TEN(TWELFTHS) THREE(TWELFTHS)",
  "TWO(TWELFTHS)) LETTER(A ARCHAIC(SA) BA DA E HHA I KA KHA LA MA NA NE O PA QA RA SA SE TA TE",
  "TO WA YA) LOGOGRAM(IMN RMT) NUMBER(EIGHT(* HUNDRED(* THOUSAND) THOUSAND) EIGHTY(THOUSAND)",
  "FIFTY(* THOUSAND) FIVE(* HUNDRED(* THOUSAND) THOUSAND) FORTY(* THOUSAND) FOUR(* HUNDRED(*",
  "THOUSAND) THOUSAND) NINE(* HUNDRED(* THOUSAND) THOUSAND) NINETY(THOUSAND) ONE(* HUNDRED(*",
  "THOUSAND) THOUSAND) SEVEN(* HUNDRED(* THOUSAND) THOUSAND) SEVENTY(* THOUSAND) SIX(* HUNDRED(*",
  "THOUSAND) THOUSAND) SIXTY(* THOUSAND) TEN(* THOUSAND) THIRTY(* THOUSAND) THREE(* HUNDRED(*",
  "THOUSAND) THOUSAND) TWENTY(* THOUSAND) TWO(* HUNDRED(* THOUSAND) THOUSAND)))",
  "HIEROGLYPHIC(LETTER(A BA BA-2 DA E HHA I KA KHA LA MA NA NA-2 NE NE-2 O PA QA RA RA-2 SA SA-2",
  "SE TA TA-2 TE TE-2 TO WA YA) SYMBOL(VIDJ VIDJ-2))) MERPERSON MESSAGE(WAITING) METRICAL(BREVE",
  "LONG(OVER(SHORT TWO(SHORTS))) PENTASEME SHORT(OVER(LONG)) TETRASEME TRISEME TWO(SHORTS(JOINED",
  "OVER(LONG)))) METRO MIAO(LETTER(AH ARCHAIC(MA NA NGA ZZA) BA BRI DA DDA DLHA DLHYA DZA DZHA",
  "DZYI DZZA FA GA GHA GHHA HA HHA KA LA LHA LHYA LYA MA MHA NA NASALIZATION NGA NGHA NHA NNA",
  "NNHA NYA NYHA PA PLA QA QGA REFORMED(TONE-1 TONE-2 TONE-4 TONE-5 TONE-6 TONE-8 TSHA) RTE SA",
  "SHA SSA SYI TA TE TLHA TLHYA TONE-2 TONE-3 TONE-4 TONE-5 TONE-6 TONE-7 TONE-8 TSA TSE TSHA",
  "TSSA TTA VA VFA WA XA YI(DZHA KA NNA PA TA TSA TSHA TTA) ZA ZHA ZSA ZSHA ZZA ZZSA ZZSYA ZZYA)",
  "SIGN(ASPIRATION CONSONANT(MODIFIER(BAR)) REFORMED(ASPIRATION VOICING)) TONE(ABOVE BELOW RIGHT",
  "TOP(RIGHT)) VOWEL(SIGN(A AA AE AEE AHH AI AN ANG AU E EA EI EN ENG ER ERR I IA IAN IANG IE IG",
  "II ING IO IONG IU N NG O OER OEY OG OO OU ROUNDED(ER ERR) U UA UAN UANG UEI UI UNG UOG UU VW",
  "W WO Y YI YUI))) MICR(DASH(SYMBOL) ON(US(SYMBOL))) MICRO(SIGN) MICROBE MICROPHONE MICROSCOPE",
  "MIDDLE(DOT THIRD(WHITE(RIGHT(POINTING(INDEX))))) MIDLINE(HORIZONTAL(ELLIPSIS))",
  "MILITARY(HELMET MEDAL) MILKY(WAY) MILL(SIGN) MINIBUS MINIDISC MINIMIZE MINUS(SIGN(*",
  "IN(TRIANGLE) WITH(COMMA(ABOVE) DOT(BELOW) FALLING(DOTS) RISING(DOTS))) TILDE)",
  "MINUS-OR-PLUS(SIGN) MINY MIRROR(* BALL) MMSP MOBILE(PHONE(* OFF",
  "WITH(RIGHTWARDS(ARROW(AT(LEFT)))))) MODELS MODERN(PENTATHLON) MODI(ABBREVIATION(SIGN) DANDA",
  "DIGIT(EIGHT FIVE FOUR NINE ONE SEVEN SIX THREE TWO ZERO) DOUBLE(DANDA) LETTER(A AA AI AU BA",
  "BHA CA CHA DA DDA DDHA DHA E GA GHA HA I II JA JHA KA KHA LA LLA MA NA NGA NNA NYA O PA PHA",
  "RA SA SHA SSA TA THA TTA TTHA U UU VA VOCALIC(L LL R RR) YA) SIGN(ANUSVARA ARDHACANDRA HUVA",
  "VIRAMA VISARGA) VOWEL(SIGN(AA AI AU E I II O U UU VOCALIC(L LL R RR))))",
  "MODIFIER(BREVE(WITH(INVERTED(BREVE))) LETTER(ACUTE(ACCENT) ALVEOLAR(CLICK) APOSTROPHE",
  "BEGIN(HIGH(TONE) LOW(TONE)) BILABIAL(CLICK) CAPITAL(A AE B BARRED(B) C D E F G H(*",
  "WITH(STROKE)) I J K L M N O OU P Q R REVERSED(E N) T U V W) CENTRED(LEFT(HALF(RING))",
  "RIGHT(HALF(RING))) CHINESE(TONE(YANG(PING QU RU SHANG) YIN(PING QU RU SHANG)))",
  "CIRCUMFLEX(ACCENT) COLON CROSS(ACCENT) CYRILLIC(EN HARD(SIGN) SOFT(SIGN)) DENTAL(CLICK)",
  "DOT(HORIZONTAL(BAR) SLASH VERTICAL(BAR)) DOUBLE(APOSTROPHE PRIME) DOWN(ARROWHEAD TACK)",
  "END(HIGH(TONE) LOW(TONE)) EXTRA-HIGH(DOTTED(LEFT-STEM(TONE(BAR)) TONE(BAR))",
  "LEFT-STEM(TONE(BAR)) TONE(BAR)) EXTRA-LOW(DOTTED(LEFT-STEM(TONE(BAR)) TONE(BAR))",
  "LEFT-STEM(TONE(BAR)) TONE(BAR)) GEORGIAN(NAR) GLOTTAL(STOP(* WITH(STROKE))) GRAVE(ACCENT)",
  "HALF(TRIANGULAR(COLON)) HIGH(DOTTED(LEFT-STEM(TONE(BAR)) TONE(BAR)) LEFT-STEM(TONE(BAR))",
  "TONE(BAR)) LATERAL(CLICK) LEFT(ARROWHEAD HALF(RING) TACK) LOW(ACUTE(ACCENT)",
  "CIRCUMFLEX(ACCENT) DOTTED(LEFT-STEM(TONE(BAR)) TONE(BAR)) DOWN(ARROWHEAD) GRAVE(ACCENT)",
  "INVERTED(EXCLAMATION(MARK)) LEFT(ARROW ARROWHEAD) LEFT-STEM(TONE(BAR)) MACRON",
  "RIGHT(ARROWHEAD) RING TILDE TONE(BAR) UP(ARROWHEAD) VERTICAL(LINE))",
  "LOWER(RIGHT(CORNER(ANGLE))) MACRON MID(DOTTED(LEFT-STEM(TONE(BAR)) TONE(BAR))",
  "LEFT-STEM(TONE(BAR)) TONE(BAR)) MIDDLE(DOUBLE(ACUTE(ACCENT) GRAVE(ACCENT)) GRAVE(ACCENT))",
  "MINUS(SIGN) OPEN(SHELF) PLUS(SIGN) PRIME RAISED(COLON DOWN(ARROW) EXCLAMATION(MARK)",
  "INVERTED(EXCLAMATION(MARK)) UP(ARROW)) RETROFLEX(CLICK(WITH(RETROFLEX(HOOK)))) REVERSED(COMMA",
  "GLOTTAL(STOP(* WITH(STROKE)))) RHOTIC(HOOK) RIGHT(ARROWHEAD HALF(RING) TACK) SHELF",
  "SHORT(EQUALS(SIGN)) SMALL(A AE AIN ALPHA B(* WITH(HOOK)) BARRED(O) BETA BOTTOM(HALF(O)) C(*",
  "WITH(CURL)) CAPITAL(AA B G(* WITH(HOOK)) H I(* WITH(STROKE)) INVERTED(R) L(* WITH(BELT)) N OE",
  "R U Y) CHI CLOSED(OMEGA REVERSED(OPEN(E))) D(* WITH(HOOK(* AND(TAIL)) TAIL)) DELTA",
  "DEZH(DIGRAPH) DOTLESS(J(WITH(STROKE(* AND(HOOK))))) DZ(DIGRAPH(* WITH(CURL RETROFLEX(HOOK))))",
  "E ENG ESH ETH EZH F FENG(DIGRAPH) G(* WITH(HOOK)) GAMMA GREEK(GAMMA PHI) H(* WITH(HOOK",
  "STROKE)) HENG(* WITH(HOOK)) I(WITH(STROKE)) IOTA J(* WITH(CROSSED-TAIL)) K L(* WITH(BELT",
  "INVERTED(LAZY(S)) MIDDLE(TILDE) PALATAL(HOOK) RETROFLEX(HOOK(* AND(BELT))))) LEZH(*",
  "WITH(RETROFLEX(HOOK))) LIGATURE(OE) LS(DIGRAPH) LZ(DIGRAPH) M(* WITH(HOOK)) N(WITH(LEFT(HOOK)",
  "RETROFLEX(HOOK))) O(* WITH(STROKE)) OPEN(E O) P PHI Q R(* WITH(FISHHOOK TAIL)) RAMS(HORN)",
  "REVERSED(E GLOTTAL(STOP) OPEN(E)) S(* WITH(CURL HOOK)) SCHWA SCRIPT(G) SIDEWAYS(U) T(*",
  "WITH(PALATAL(HOOK) RETROFLEX(HOOK))) TC(DIGRAPH(WITH(CURL))) TESH(DIGRAPH) THETA TOP(HALF(O))",
  "TS(DIGRAPH(* WITH(RETROFLEX(HOOK)))) TURNED(A AE ALPHA H I M(* WITH(LONG(LEG))) OPEN(E) R(*",
  "WITH(HOOK LONG(LEG(* AND(RETROFLEX(HOOK)))))) V W Y(* WITH(BELT))) U(* BAR WITH(LEFT(HOOK)))",
  "UPSILON V(* WITH(HOOK RIGHT(HOOK))) W X Y Z(* WITH(CURL RETROFLEX(HOOK))))",
  "STRESS(AND(HIGH(TONE) LOW(TONE))) SUPERSCRIPT(HALF(TRIANGULAR(COLON)) TRIANGULAR(COLON))",
  "TRIANGULAR(COLON) TURNED(COMMA) UNASPIRATED UP(ARROWHEAD TACK) US VERTICAL(LINE) VOICING",
  "YANG(DEPARTING(TONE(MARK))) YIN(DEPARTING(TONE(MARK))))) MODULO(TWO(SUM)) MONEY(BAG",
  "WITH(WINGS)) MONEY-MOUTH(FACE) MONGOLIAN(BIRGA(* WITH(DOUBLE(ORNAMENT) ORNAMENT)) COLON COMMA",
  "DIGIT(EIGHT FIVE FOUR NINE ONE SEVEN SIX THREE TWO ZERO) DOUBLE(BIRGA(WITH(ORNAMENT)))",
  "ELLIPSIS FOUR(DOTS) FREE(VARIATION(SELECTOR(FOUR ONE THREE TWO))) FULL(STOP) INVERTED(BIRGA(*",
  "WITH(DOUBLE(ORNAMENT)))) LETTER(A ALI(GALI(A AH ANUSVARA(ONE) BALUDA CA DA DAGALGA DAMARU DDA",
  "HALF(U YA) I INVERTED(UBADAMA) KA NGA NNA PA PHA SSA TA THREE(BALUDA) TTA TTHA UBADAMA",
  "VISARGA(ONE) ZA ZHA)) ANG BA CHA(* WITH(TWO(DOTS))) CHI DA E EE FA GA HAA I JA KA KHA LA LHA",
  "MA MANCHU(ALI(GALI(BHA CA CYA DDHA DHA GHA JHA LHA NGA SSA TA TTA ZA ZHA)) FA I KA RA ZHA) NA",
  "O OE PA QA RA SA SHA SIBE(ANG CHA DA E FA GA GAA HA HAA I IY JA KA PA RAA SHA TA TSA U UE ZA",
  "ZHA) TA TODO(ALI(GALI(TA ZHA)) ANG BA CHA DA DZA E GA GAA HAA I JA JIA KA LONG(VOWEL(SIGN))",
  "MA NIA O OE PA QA TA TSA U UE WA YA) TSA U UE WA YA ZA ZHI ZRA) MANCHU(COMMA FULL(STOP))",
  "NIRUGU ROTATED(BIRGA(* WITH(DOUBLE(ORNAMENT) ORNAMENT))) SIBE(SYLLABLE(BOUNDARY(MARKER)))",
  "SWIRL(BIRGA(* WITH(DOUBLE(ORNAMENT) ORNAMENT))) TODO(SOFT(HYPHEN))",
  "TRIPLE(BIRGA(WITH(ORNAMENT))) TURNED(SWIRL(BIRGA(WITH(DOUBLE(ORNAMENT))))) VOWEL(SEPARATOR))",
  "MONKEY(* FACE) MONOGRAM(FOR(EARTH YANG YIN)) MONORAIL MONOSTABLE(SYMBOL) MOOD(BUBBLE)",
  "MOON(CAKE VIEWING(CEREMONY)) MOSQUE MOSQUITO MOTHER(CHRISTMAS) MOTOR(BOAT SCOOTER)",
  "MOTORIZED(WHEELCHAIR) MOTORWAY MOUNT(FUJI) MOUNTAIN(* BICYCLIST CABLEWAY RAILWAY) MOUSE(*",
  "FACE TRAP) MOUTH MOVIE(CAMERA) MOYAI MRO(DANDA DIGIT(EIGHT FIVE FOUR NINE ONE SEVEN SIX THREE",
  "TWO ZERO) DOUBLE(DANDA) LETTER(A BA CHU DA DAI E EA HAI HAO KEAAE KHAI KO LA LAN MAEM MIM NGI",
  "NIN O OL OO PA PHI RI RO SHI TA TEK THEA WA YO)) MUCH(GREATER-THAN LESS-THAN)",
  "MULTANI(LETTER(A BA BHA CA CHA DA DDA DDDA DDHA DHA E GA GHA HA I JA JJA KA KHA LA MA NA NNA",
  "NYA PA PHA RA RHA RRA SA TA THA TTA TTHA U VA YA) SECTION(MARK)) MULTIMAP",
  "MULTIPLE(MUSICAL(NOTES)) MULTIPLICATION(SIGN(* IN(DOUBLE(CIRCLE) LEFT(HALF(CIRCLE))",
  "RIGHT(HALF(CIRCLE)) TRIANGLE) WITH(DOT(ABOVE) UNDERBAR)) X) MULTISET(* MULTIPLICATION UNION)",
  "MUSHROOM MUSIC(FLAT(SIGN) NATURAL(SIGN) SHARP(SIGN)) MUSICAL(KEYBOARD(* WITH(JACKS)) NOTE",
  "SCORE SYMBOL(ARPEGGIATO(DOWN UP) BEGIN(BEAM PHRASE SLUR TIE) BRACE BRACKET BREATH(MARK) BREVE",
  "BREVIS(* REST) C(CLEF) CAESURA CIRCLE(X(NOTEHEAD)) CLIMACUS CLIVIS CLUSTER(NOTEHEAD(BLACK",
  "WHITE)) CODA COMBINING(ACCENT ACCENT-STACCATO AUGMENTATION(DOT) BEND DOIT DOUBLE(TONGUE)",
  "DOWN(BOW) FLAG-1 FLAG-2 FLAG-3 FLAG-4 FLAG-5 FLIP HARMONIC LOURE MARCATO MARCATO-STACCATO RIP",
  "SMEAR SNAP(PIZZICATO) SPRECHGESANG(STEM) STACCATISSIMO STACCATO STEM TENUTO TREMOLO-1",
  "TREMOLO-2 TREMOLO-3 TRIPLE(TONGUE) UP(BOW)) COMMON(TIME) CRESCENDO CROIX CUT(TIME) DA(CAPO)",
  "DAL(SEGNO) DAMP(* ALL) DASHED(BARLINE) DECRESCENDO DEGREE(SLASH) DOUBLE(BARLINE FLAT SHARP)",
  "DRUM(CLEF-1 CLEF-2) EIGHTH(NOTE REST) END(BEAM OF(STIMME) PHRASE SLUR TIE) F(CLEF(*",
  "OTTAVA(ALTA BASSA))) FERMATA(* BELOW) FINAL(BARLINE) FINGERED(TREMOLO-1 TREMOLO-2 TREMOLO-3)",
  "FIVE-LINE(STAFF) FLAT(DOWN UP) FORTE FOUR-LINE(STAFF) FOUR-STRING(FRETBOARD) FUSA(BLACK",
  "WHITE) G(CLEF(* OTTAVA(ALTA BASSA))) GLISSANDO(DOWN UP) GRACE(NOTE(NO(SLASH) SLASH))",
  "GREGORIAN(C(CLEF) F(CLEF)) HALF(NOTE PEDAL(MARK) REST) HAUPTSTIMME INVERTED(TURN)",
  "KIEVAN(C(CLEF) EIGHTH(NOTE(STEM(DOWN UP))) END(OF(PIECE)) FINAL(NOTE) FLAT(SIGN) HALF(NOTE)",
  "QUARTER(NOTE(STEM(DOWN UP))) RECITATIVE(MARK) WHOLE(NOTE)) KORON LEFT(REPEAT(SIGN)) LONGA(*",
  "IMPERFECTA(REST) PERFECTA(REST)) MAXIMA MEZZO MINIMA(* BLACK REST) MOON(NOTEHEAD(BLACK",
  "WHITE)) MULTI(REST) MULTIPLE(MEASURE(REST)) NATURAL(DOWN UP) NEBENSTIMME NOTEHEAD(BLACK)",
  "NULL(NOTEHEAD) ONE(HUNDRED(TWENTY-EIGHTH(NOTE REST))) ONE-LINE(STAFF) ORNAMENT(STROKE-1",
  "STROKE-10 STROKE-11 STROKE-2 STROKE-3 STROKE-4 STROKE-5 STROKE-6 STROKE-7 STROKE-8 STROKE-9)",
  "OTTAVA(ALTA BASSA) PARENTHESIS(NOTEHEAD) PEDAL(MARK UP(MARK)) PES(SUBPUNCTIS) PIANO",
  "PLUS(NOTEHEAD) PODATUS PORRECTUS(* FLEXUS) QUARTER(NOTE REST TONE(FLAT SHARP))",
  "QUINDICESIMA(ALTA BASSA) REPEAT(DOTS) REPEATED(FIGURE-1 FIGURE-2 FIGURE-3)",
  "REVERSE(FINAL(BARLINE)) RIGHT(REPEAT(SIGN)) RINFORZANDO SCANDICUS(* FLEXUS) SEGNO",
  "SEMIBREVIS(BLACK REST WHITE) SEMIMINIMA(BLACK REST WHITE) SHARP(DOWN UP) SHORT(BARLINE)",
  "SINGLE(BARLINE) SIX-LINE(STAFF) SIX-STRING(FRETBOARD) SIXTEENTH(NOTE REST) SIXTY-FOURTH(NOTE",
  "REST) SORI SQUARE(B NOTEHEAD(BLACK WHITE)) SUBITO",
  "TEMPUS(IMPERFECTUM(CUM(PROLATIONE(IMPERFECTA(* DIMINUTION-1 DIMINUTION-2 DIMINUTION-3)",
  "PERFECTA))) PERFECTUM(CUM(PROLATIONE(IMPERFECTA PERFECTA(* DIMINUTION-1)))))",
  "THIRTY-SECOND(NOTE REST) THREE-LINE(STAFF) TORCULUS(* RESUPINUS) TR",
  "TRIANGLE(NOTEHEAD(DOWN(BLACK WHITE) LEFT(BLACK WHITE) RIGHT(BLACK WHITE) UP(BLACK RIGHT(BLACK",
  "WHITE) WHITE))) TRIANGLE-ROUND(NOTEHEAD(DOWN(BLACK WHITE))) TURN(* SLASH UP) TWO-LINE(STAFF)",
  "VIRGA VOID(NOTEHEAD) WHOLE(NOTE REST) WITH(FINGERNAILS) X(NOTEHEAD) Z)) MVS MW",
  "MYANMAR(CONSONANT(SIGN(MEDIAL(HA RA WA YA) MON(MEDIAL(LA MA NA)) SHAN(MEDIAL(WA))))",
  "DIGIT(EIGHT FIVE FOUR NINE ONE SEVEN SIX THREE TWO ZERO) LETTER(A AITON(RA) AU BA BHA CA CHA",
  "DA DDA DDHA DHA E EASTERN(PWO(KAREN(GHWA NNA YWA))) GA GHA GREAT(SA) HA I II JA JHA KA KHA",
  "KHAMTI(CA CHA DDA DDHA DHA FA GA HA HHA JA JHA LLA NA NYA RA SA TTA TTHA XA ZA) LA LLA MA",
  "MON(BBA BBE E JHA NGA) NA NGA NNA NNYA NYA O PA PHA RA RUMAI(PALAUNG(FA)) SA SGAW(KAREN(SHA))",
  "SHA SHAN(A BA BHA CA CHA DA FA GA GHA HA JHA KA KHA NA NNA NYA PHA THA ZA) SHWE(PALAUNG(CHA",
  "SHA)) SSA TA TAI(LAING(BA BHA DA DDA DDHA DHA FA GA GHA JA JHA LLA NNA NYA)) THA TTA TTHA U",
  "UU VOCALIC(L LL R RR) WA WESTERN(PWO(KAREN(PWA THA))) YA) LOGOGRAM(KHAMTI(HM OAY QN))",
  "MODIFIER(LETTER(KHAMTI(REDUPLICATION) SHAN(REDUPLICATION))) SHAN(DIGIT(EIGHT FIVE FOUR NINE",
  "ONE SEVEN SIX THREE TWO ZERO)) SIGN(ANUSVARA ASAT DOT(BELOW) KHAMTI(TONE-1 TONE-3)",
  "LITTLE(SECTION) PAO(KAREN(TONE)) RUMAI(PALAUNG(TONE-5)) SECTION SHAN(COUNCIL(EMPHATIC(TONE)",
  "TONE-2 TONE-3) SAW TONE-2 TONE-3 TONE-5 TONE-6) TAI(LAING(TONE-2 TONE-5)) VIRAMA VISARGA",
  "WESTERN(PWO(KAREN(TONE-1 TONE-2 TONE-3 TONE-4 TONE-5)))) SYMBOL(AFOREMENTIONED",
  "AITON(EXCLAMATION ONE TWO) COMPLETED GENITIVE LOCATIVE SHAN(EXCLAMATION ONE))",
  "TAI(LAING(DIGIT(EIGHT FIVE FOUR NINE ONE SEVEN SIX THREE TWO ZERO)))",
  "TONE(MARK(SGAW(KAREN(HATHI KE(PHO))))) VOWEL(SIGN(AA AI AITON(A AI) E(* ABOVE) GEBA(KAREN(I))",
  "I II KAYAH(EE OE U) MON(II O) SGAW(KAREN(EU)) SHAN(AA E(* ABOVE) FINAL(Y)) TALL(AA) U UU",
  "VOCALIC(L LL R RR) WESTERN(PWO(KAREN(EU UE))))))"]

end RunOnce.Text
