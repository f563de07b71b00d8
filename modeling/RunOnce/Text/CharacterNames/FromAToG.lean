/-!
# Names of characters from A to G

The names of characters that start with these letters, as trees of words: in
brackets after a word stand the words that may follow it, and a star among these
says that a name may end there.
-/

namespace RunOnce.Text

/-- The names that start with A. -/
def characterNamesA : List String := [
  "ABACUS AC(CURRENT) ACCORDION ACCOUNT(OF) ACK ACKNOWLEDGE ACTIVATE(ARABIC(FORM(SHAPING))",
  "SYMMETRIC(SWAPPING)) ACUTE(ACCENT ANGLE) ADDRESSED(TO(THE(SUBJECT))) ADHESIVE(BANDAGE)",
  "ADI(SHAKTI) ADLAM(ALIF(LENGTHENER) CAPITAL(LETTER(ALIF BA BHE CHI DAALI DHA E FA GA GBE HA I",
  "JIIM KAF KHA KPO LAAM MIIM NHA NUN NYA O PE QAAF RA SHA SINNYIIYHE TU U VA WAW YA YHE ZAL))",
  "CONSONANT(MODIFIER) DIGIT(EIGHT FIVE FOUR NINE ONE SEVEN SIX THREE TWO ZERO)",
  "GEMINATE(CONSONANT(MODIFIER)) GEMINATION(MARK) HAMZA INITIAL(EXCLAMATION(MARK)",
  "QUESTION(MARK)) NASALIZATION(MARK) NUKTA SMALL(LETTER(ALIF BA BHE CHI DAALI DHA E FA GA GBE",
  "HA I JIIM KAF KHA KPO LAAM MIIM NHA NUN NYA O PE QAAF RA SHA SINNYIIYHE TU U VA WAW YA YHE",
  "ZAL)) VOWEL(LENGTHENER)) ADMETOS ADMISSION(TICKETS) ADULT AEGEAN(CHECK(MARK)",
  "DRY(MEASURE(FIRST(SUBUNIT))) LIQUID(MEASURE(FIRST(SUBUNIT))) MEASURE(SECOND(SUBUNIT)",
  "THIRD(SUBUNIT)) NUMBER(EIGHT(* HUNDRED THOUSAND) EIGHTY(* THOUSAND) FIFTY(* THOUSAND) FIVE(*",
  "HUNDRED THOUSAND) FORTY(* THOUSAND) FOUR(* HUNDRED THOUSAND) NINE(* HUNDRED THOUSAND)",
  "NINETY(* THOUSAND) ONE(* HUNDRED THOUSAND) SEVEN(* HUNDRED THOUSAND) SEVENTY(* THOUSAND)",
  "SIX(* HUNDRED THOUSAND) SIXTY(* THOUSAND) TEN(* THOUSAND) THIRTY(* THOUSAND) THREE(* HUNDRED",
  "THOUSAND) TWENTY(* THOUSAND) TWO(* HUNDRED THOUSAND)) WEIGHT(BASE(UNIT) FIRST(SUBUNIT)",
  "FOURTH(SUBUNIT) SECOND(SUBUNIT) THIRD(SUBUNIT)) WORD(SEPARATOR(DOT LINE))) AERIAL(TRAMWAY)",
  "AFGHANI(SIGN) AHOM(CONSONANT(SIGN(MEDIAL(LA LIGATING(RA) RA))) DIGIT(EIGHT FIVE FOUR NINE ONE",
  "SEVEN SIX THREE TWO ZERO) LETTER(A ALTERNATE(BA GA TA) BA BHA CA CHA DA DDA DDHA DHA GA GHA",
  "HA JA JHA KA KHA LA LLA MA NA NGA NNA NYA PA PHA RA SA TA THA TTA TTHA) NUMBER(TEN TWENTY)",
  "SIGN(KILLER RULAI SECTION SMALL(SECTION)) SYMBOL(VI) VOWEL(SIGN(A AA AI AM AW E I II O U",
  "UU))) AIRPLANE(* ARRIVING DEPARTURE) AKTIESELSKAB ALARM(CLOCK) ALCHEMICAL(SYMBOL(FOR(AIR",
  "ALEMBIC ALKALI ALKALI-2 ALUM AMALGAM ANTIMONY(ORE) AQUA(REGIA REGIA-2 VITAE VITAE-2)",
  "AQUAFORTIS ARSENIC ASHES AURIPIGMENT BATH(OF(MARY VAPOURS)) BISMUTH(ORE) BLACK(SULFUR) BORAX",
  "BORAX-2 BORAX-3 BRICK CADUCEUS CALX CAPUT(MORTUUM) CINNABAR COPPER(ANTIMONIATE ORE)",
  "CROCUS(OF(COPPER COPPER-2 IRON)) CRUCIBLE CRUCIBLE-2 CRUCIBLE-3 CRUCIBLE-4 CRUCIBLE-5",
  "DAY-NIGHT DISSOLVE DISSOLVE-2 DISTILL EARTH FIRE GOLD GUM HALF(DRAM OUNCE) HORSE(DUNG) HOUR",
  "IRON(ORE ORE-2) IRON-COPPER(ORE) LEAD(ORE) LODESTONE MARCASITE MERCURY(SUBLIMATE SUBLIMATE-2",
  "SUBLIMATE-3) MONTH NIGHT NITRE OIL PHILOSOPHERS(SULFUR) POT(ASHES) POWDER POWDERED(BRICK)",
  "PRECIPITATE PURIFY PUTREFACTION QUICK(LIME) QUINTESSENCE REALGAR REALGAR-2 REGULUS(*",
  "OF(ANTIMONY ANTIMONY-2 IRON)) REGULUS-2 REGULUS-3 REGULUS-4 RETORT ROCK(SALT SALT-2)",
  "SAL-AMMONIAC SALT(* OF(ANTIMONY COPPER(ANTIMONIATE))) SCEPTER(OF(JOVE)) SILVER SOAP SPIRIT",
  "STARRED(TRIDENT) STRATUM(SUPER(STRATUM STRATUM-2)) SUBLIMATE(OF(ANTIMONY COPPER",
  "SALT(OF(ANTIMONY COPPER)))) SUBLIMATION SULFUR TARTAR TARTAR-2 TIN(ORE) TINCTURE TRIDENT",
  "TUTTY URINE VERDIGRIS VINEGAR(* OF(ANTIMONY)) VINEGAR-2 VINEGAR-3 VITRIOL VITRIOL-2 WATER",
  "WAX))) ALEF(SYMBOL) ALEMBIC ALERT ALIEN(MONSTER) ALL(AROUND-PROFILE EQUAL(TO)) ALM",
  "ALMOST(EQUAL(OR(EQUAL(TO)) TO(* WITH(CIRCUMFLEX(ACCENT)))))",
  "ALTERNATE(ONE-WAY(LEFT(WAY(TRAFFIC)))) ALTERNATIVE(KEY(SYMBOL)) AMALGAMATION(OR(COPRODUCT))",
  "AMBULANCE AMERICAN(FOOTBALL) AMPERSAND AMPHORA ANATOLIAN(HIEROGLYPH(A001 A002 A003 A004 A005",
  "A006 A007 A008 A009 A010 A010A A011 A012 A013 A014 A015 A016 A017 A018 A019 A020 A021 A022",
  "A023 A024 A025 A026 A026A A027 A028 A029 A030 A031 A032 A033 A034 A035 A036 A037 A038 A039",
  "A039A A040 A041 A041A A042 A043 A044 A045 A045A A046 A046A A046B A047 A048 A049 A050 A051",
  "A052 A053 A054 A055 A056 A057 A058 A059 A060 A061 A062 A063 A064 A065 A066 A066A A066B A066C",
  "A067 A068 A069 A070 A071 A072 A073 A074 A075 A076 A077 A078 A079 A080 A081 A082 A083 A084",
  "A085 A086 A087 A088 A089 A090 A091 A092 A093 A094 A095 A096 A097 A097A A098 A098A A099 A100",
  "A100A A101 A101A A102 A102A A103 A104 A104A A104B A104C A105 A105A A105B A106 A107 A107A",
  "A107B A107C A108 A109 A110 A110A A110B A111 A112 A113 A114 A115 A115A A116 A117 A118 A119",
  "A120 A121 A122 A123 A124 A125 A125A A126 A127 A128 A129 A130 A131 A132 A133 A134 A135 A135A",
  "A136 A137 A138 A139 A140 A141 A142 A143 A144 A145 A146 A147 A148 A149 A150 A151 A152 A153",
  "A154 A155 A156 A157 A158 A159 A160 A161 A162 A163 A164 A165 A166 A167 A168 A169 A170 A171",
  "A172 A173 A174 A175 A176 A177 A178 A179 A180 A181 A182 A183 A184 A185 A186 A187 A188 A189",
  "A190 A191 A192 A193 A194 A195 A196 A197 A198 A199 A200 A201 A202 A202A A202B A203 A204 A205",
  "A206 A207 A207A A208 A209 A209A A210 A211 A212 A213 A214 A215 A215A A216 A216A A217 A218 A219",
  "A220 A221 A222 A223 A224 A225 A226 A227 A227A A228 A229 A230 A231 A232 A233 A234 A235 A236",
  "A237 A238 A239 A240 A241 A242 A243 A244 A245 A246 A247 A248 A249 A250 A251 A252 A253 A254",
  "A255 A256 A257 A258 A259 A260 A261 A262 A263 A264 A265 A266 A267 A267A A268 A269 A270 A271",
  "A272 A273 A274 A275 A276 A277 A278 A279 A280 A281 A282 A283 A284 A285 A286 A287 A288 A289",
  "A289A A290 A291 A292 A293 A294 A294A A295 A296 A297 A298 A299 A299A A300 A301 A302 A303 A304",
  "A305 A306 A307 A308 A309 A309A A310 A311 A312 A313 A314 A315 A316 A317 A318 A319 A320 A321",
  "A322 A323 A324 A325 A326 A327 A328 A329 A329A A330 A331 A332A A332B A332C A333 A334 A335 A336",
  "A336A A336B A336C A337 A338 A339 A340 A341 A342 A343 A344 A345 A346 A347 A348 A349 A350 A351",
  "A352 A353 A354 A355 A356 A357 A358 A359 A359A A360 A361 A362 A363 A364 A364A A365 A366 A367",
  "A368 A368A A369 A370 A371 A371A A372 A373 A374 A375 A376 A377 A378 A379 A380 A381 A381A A382",
  "A383(RA(OR(RI))) A383A A384 A385 A386 A386A A387 A388 A389 A390 A391 A392 A393(EIGHT) A394",
  "A395 A396 A397 A398 A399 A400 A401 A402 A403 A404 A405 A406 A407 A408 A409",
  "A410(BEGIN(LOGOGRAM(MARK))) A410A(END(LOGOGRAM(MARK))) A411 A412 A413 A414 A415 A416 A417",
  "A418 A419 A420 A421 A422 A423 A424 A425 A426 A427 A428 A429 A430 A431 A432 A433 A434 A435",
  "A436 A437 A438 A439 A440 A441 A442 A443 A444 A445 A446 A447 A448 A449 A450 A450A A451 A452",
  "A453 A454 A455 A456 A457 A457A A458 A459 A460 A461 A462 A463 A464 A465 A466 A467 A468 A469",
  "A470 A471 A472 A473 A474 A475 A476 A477 A478 A479 A480 A481 A482 A483 A484 A485 A486 A487",
  "A488 A489 A490 A491 A492 A493 A494 A495 A496 A497 A501 A502 A503 A504 A505 A506 A507 A508",
  "A509 A510 A511 A512 A513 A514 A515 A516 A517 A518 A519 A520 A521 A522 A523 A524 A525 A526",
  "A527 A528 A529 A530)) ANATOMICAL(HEART) ANCHOR AND(WITH(DOT)) ANGER(SYMBOL) ANGLE(*",
  "WITH(S(INSIDE) UNDERBAR)) ANGRY(FACE) ANGSTROM(SIGN) ANGUISHED(FACE) ANKH ANT",
  "ANTENNA(WITH(BARS)) ANTICLOCKWISE(CLOSED(CIRCLE(ARROW)) CONTOUR(INTEGRAL)",
  "DOWNWARDS(AND(UPWARDS(OPEN(CIRCLE(ARROWS))))) GAPPED(CIRCLE(ARROW)) INTEGRATION",
  "OPEN(CIRCLE(ARROW)) TOP(SEMICIRCLE(ARROW)) TRIANGLE-HEADED(BOTTOM(U-SHAPED(ARROW))",
  "LEFT(U-SHAPED(ARROW)) OPEN(CIRCLE(ARROW)) RIGHT(U-SHAPED(ARROW)) TOP(U-SHAPED(ARROW)))) APC",
  "APL(FUNCTIONAL(SYMBOL(ALPHA(* UNDERBAR) BACKSLASH(BAR) CIRCLE(BACKSLASH DIAERESIS JOT STAR",
  "STILE UNDERBAR) COMMA(BAR) DEL(DIAERESIS STILE TILDE) DELTA(STILE UNDERBAR) DIAMOND(UNDERBAR)",
  "DOWN(CARET(TILDE) SHOE(STILE) TACK(JOT UNDERBAR)) DOWNWARDS(VANE) EPSILON(UNDERBAR)",
  "GREATER-THAN(DIAERESIS) I-BEAM IOTA(* UNDERBAR) JOT(DIAERESIS UNDERBAR) LEFT(SHOE(STILE))",
  "LEFTWARDS(VANE) OMEGA(* UNDERBAR) QUAD(* BACKSLASH CIRCLE COLON DEL DELTA DIAMOND DIVIDE",
  "DOWN(CARET) DOWNWARDS(ARROW) EQUAL GREATER-THAN JOT LEFTWARDS(ARROW) LESS-THAN NOT(EQUAL)",
  "QUESTION RIGHTWARDS(ARROW) SLASH UP(CARET) UPWARDS(ARROW)) QUOTE(QUAD UNDERBAR) RHO",
  "RIGHTWARDS(VANE) SEMICOLON(UNDERBAR) SLASH(BAR) SQUISH(QUAD) STAR(DIAERESIS) STILE(TILDE)",
  "TILDE(DIAERESIS) UP(CARET(TILDE) SHOE(JOT) TACK(DIAERESIS JOT OVERBAR)) UPWARDS(VANE)",
  "ZILDE))) APOLLON APOSTROPHE APPLICATION(PROGRAM(COMMAND)) APPROACHES(THE(LIMIT))",
  "APPROXIMATELY(BUT(NOT(ACTUALLY(EQUAL(TO)))) EQUAL(OR(EQUAL(TO)) TO(* OR(THE(IMAGE(OF))))))",
  "AQUARIUS ARABIC(BASELINE(ROUND(DOT)) COMMA CURLY(DAMMA DAMMATAN FATHA FATHATAN KASRA",
  "KASRATAN) DAMMA(* ISOLATED(FORM) MEDIAL(FORM) WITH(DOT)) DAMMATAN(* ISOLATED(FORM))",
  "DATE(SEPARATOR) DECIMAL(SEPARATOR) DISPUTED(END(OF(AYAH))) DOUBLE(RIGHT(ARROWHEAD(ABOVE(*",
  "WITH(DOT))))) DOUBLED(MADDA) EMPTY(CENTRE(HIGH(STOP) LOW(STOP))) END(OF(AYAH TEXT(MARK)))",
  "FATHA(* ISOLATED(FORM) MEDIAL(FORM) WITH(DOT(ABOVE) RING TWO(DOTS))) FATHATAN(*",
  "ISOLATED(FORM)) FIVE(POINTED(STAR)) FOOTNOTE(MARKER) FULL(STOP) HALF(MADDA(OVER(MADDA)))",
  "HAMZA(ABOVE BELOW) INVERTED(DAMMA) KASRA(* ISOLATED(FORM) MEDIAL(FORM) WITH(DOT(BELOW)))",
  "KASRATAN(* ISOLATED(FORM)) LARGE(CIRCLE(BELOW) ROUND(DOT(ABOVE BELOW INSIDE(CIRCLE(BELOW)))))",
  "LEFT(ARROWHEAD(ABOVE BELOW)) LETTER(AE AFRICAN(FEH NOON QAF(* WITH(THREE(DOTS(ABOVE)))))",
  "AIN(* FINAL(FORM) INITIAL(FORM) ISOLATED(FORM) MEDIAL(FORM) WITH(THREE(DOTS(ABOVE BELOW",
  "POINTING(DOWNWARDS(ABOVE)))) TWO(DOTS(ABOVE VERTICALLY(ABOVE))))) ALEF(* FINAL(FORM)",
  "ISOLATED(FORM) MAKSURA(* FINAL(FORM) ISOLATED(FORM)) WASLA(* FINAL(FORM) ISOLATED(FORM))",
  "WITH(ATTACHED(BOTTOM(RIGHT(KASRA(* AND(DOT(ABOVE) LEFT(RING))))) FATHA KASRA LEFT(HAMZA",
  "ROUND(DOT)) RIGHT(HAMZA ROUND(DOT)) ROUND(DOT(ABOVE BELOW)) TOP(RIGHT(FATHA(* AND(DOT(ABOVE)",
  "LEFT(RING)))))) DOT(ABOVE) EXTENDED(ARABIC-INDIC(DIGIT(THREE(ABOVE) TWO(ABOVE))))",
  "HAMZA(ABOVE(* FINAL(FORM) ISOLATED(FORM)) BELOW(* FINAL(FORM) ISOLATED(FORM)))",
  "LEFT(MIDDLE(STROKE)) MADDA(ABOVE(* FINAL(FORM) ISOLATED(FORM))) RIGHT(MIDDLE(STROKE(*",
  "AND(DOT(ABOVE) LEFT(RING))))) WAVY(HAMZA(ABOVE BELOW)))) BEEH(* FINAL(FORM) INITIAL(FORM)",
  "ISOLATED(FORM) MEDIAL(FORM)) BEH(* FINAL(FORM) INITIAL(FORM) ISOLATED(FORM) MEDIAL(FORM)",
  "WITH(DOT(BELOW(AND(THREE(DOTS(ABOVE))))) HAMZA(ABOVE) INVERTED(SMALL(V(BELOW)))",
  "SMALL(MEEM(ABOVE) V(* BELOW)) THREE(DOTS(HORIZONTALLY(BELOW) POINTING(UPWARDS(BELOW(*",
  "AND(TWO(DOTS(ABOVE)))))))) TWO(DOTS(BELOW(AND(DOT(ABOVE))))))) BEHEH(* FINAL(FORM)",
  "INITIAL(FORM) ISOLATED(FORM) MEDIAL(FORM)) DAD(* FINAL(FORM) INITIAL(FORM) ISOLATED(FORM)",
  "MEDIAL(FORM) WITH(DOT(BELOW))) DAHAL(* FINAL(FORM) ISOLATED(FORM)) DAL(* FINAL(FORM)",
  "ISOLATED(FORM) WITH(DOT(BELOW(* AND(SMALL(TAH)))) FOUR(DOTS(ABOVE)) INVERTED(SMALL(V(BELOW))",
  "V) RING THREE(DOTS(ABOVE(DOWNWARDS) BELOW)) TWO(DOTS(VERTICALLY(BELOW(AND(SMALL(TAH))))))))",
  "DDAHAL(* FINAL(FORM) ISOLATED(FORM)) DDAL(* FINAL(FORM) ISOLATED(FORM)) DOTLESS(BEH FEH QAF)",
  "DUL(* FINAL(FORM) ISOLATED(FORM)) DYEH(* FINAL(FORM) INITIAL(FORM) ISOLATED(FORM)",
  "MEDIAL(FORM)) E(* FINAL(FORM) INITIAL(FORM) ISOLATED(FORM) MEDIAL(FORM)) FARSI(YEH(*",
  "FINAL(FORM) INITIAL(FORM) ISOLATED(FORM) MEDIAL(FORM)",
  "WITH(EXTENDED(ARABIC-INDIC(DIGIT(FOUR(BELOW) THREE(ABOVE) TWO(ABOVE)))) INVERTED(V)",
  "THREE(DOTS(ABOVE)) TWO(DOTS(ABOVE))))) FEH(* FINAL(FORM) INITIAL(FORM) ISOLATED(FORM)",
  "MEDIAL(FORM) WITH(DOT(BELOW(* AND(THREE(DOTS(ABOVE)))) MOVED(BELOW)) THREE(DOTS(BELOW",
  "POINTING(UPWARDS(BELOW)))) TWO(DOTS(BELOW)))) GAF(* FINAL(FORM) INITIAL(FORM) ISOLATED(FORM)",
  "MEDIAL(FORM) WITH(INVERTED(STROKE) RING THREE(DOTS(ABOVE)) TWO(DOTS(BELOW)))) GHAIN(*",
  "FINAL(FORM) INITIAL(FORM) ISOLATED(FORM) MEDIAL(FORM) WITH(DOT(BELOW) THREE(DOTS(ABOVE))))",
  "GRAF GUEH(* FINAL(FORM) INITIAL(FORM) ISOLATED(FORM) MEDIAL(FORM)) HAH(* FINAL(FORM)",
  "INITIAL(FORM) ISOLATED(FORM) MEDIAL(FORM) WITH(EXTENDED(ARABIC-INDIC(DIGIT(FOUR(BELOW))))",
  "HAMZA(ABOVE) INVERTED(SMALL(V(BELOW))) SMALL(ARABIC(LETTER(TAH(ABOVE AND(TWO(DOTS)) BELOW))))",
  "THREE(DOTS(ABOVE POINTING(UPWARDS(BELOW)))) TWO(DOTS(ABOVE VERTICAL(ABOVE))))) HAMZA(*",
  "ISOLATED(FORM)) HEH(* DOACHASHMEE(* FINAL(FORM) INITIAL(FORM) ISOLATED(FORM) MEDIAL(FORM))",
  "FINAL(FORM) GOAL(* FINAL(FORM) INITIAL(FORM) ISOLATED(FORM) MEDIAL(FORM) WITH(HAMZA(ABOVE)))",
  "INITIAL(FORM) ISOLATED(FORM) MEDIAL(FORM) WITH(INVERTED(V) YEH(ABOVE(* FINAL(FORM)",
  "ISOLATED(FORM))))) HIGH(HAMZA(* ALEF WAW YEH)) JEEM(* FINAL(FORM) INITIAL(FORM)",
  "ISOLATED(FORM) MEDIAL(FORM) WITH(THREE(DOTS(ABOVE BELOW)) TWO(DOTS(ABOVE)))) JEH(*",
  "FINAL(FORM) ISOLATED(FORM)) KAF(* FINAL(FORM) INITIAL(FORM) ISOLATED(FORM) MEDIAL(FORM)",
  "WITH(DOT(ABOVE BELOW) RING THREE(DOTS(BELOW)) TWO(DOTS(ABOVE)))) KASHMIRI(YEH) KEHEH(*",
  "FINAL(FORM) INITIAL(FORM) ISOLATED(FORM) MEDIAL(FORM) WITH(DOT(ABOVE) SMALL(V)",
  "THREE(DOTS(ABOVE BELOW POINTING(UPWARDS(BELOW)))) TWO(DOTS(ABOVE VERTICALLY(BELOW))))) KHAH(*",
  "FINAL(FORM) INITIAL(FORM) ISOLATED(FORM) MEDIAL(FORM)) KIRGHIZ(OE(* FINAL(FORM)",
  "ISOLATED(FORM)) YU(* FINAL(FORM) ISOLATED(FORM))) LAM(* FINAL(FORM) INITIAL(FORM)",
  "ISOLATED(FORM) MEDIAL(FORM) WITH(BAR DOT(ABOVE) DOUBLE(BAR) SMALL(ARABIC(LETTER(TAH(ABOVE)))",
  "V) THREE(DOTS(ABOVE BELOW)))) LOW(ALEF) MARK MEEM(* FINAL(FORM) INITIAL(FORM) ISOLATED(FORM)",
  "MEDIAL(FORM) WITH(DOT(ABOVE BELOW) THREE(DOTS(ABOVE)))) NG(* FINAL(FORM) INITIAL(FORM)",
  "ISOLATED(FORM) MEDIAL(FORM)) NGOEH(* FINAL(FORM) INITIAL(FORM) ISOLATED(FORM) MEDIAL(FORM))",
  "NOON(* FINAL(FORM) GHUNNA(* FINAL(FORM) ISOLATED(FORM)) INITIAL(FORM) ISOLATED(FORM)",
  "MEDIAL(FORM) WITH(DOT(BELOW) INVERTED(SMALL(V)) RING SMALL(TAH V) THREE(DOTS(ABOVE))",
  "TWO(DOTS(BELOW)))) NYEH(* FINAL(FORM) INITIAL(FORM) ISOLATED(FORM) MEDIAL(FORM)) OE(*",
  "FINAL(FORM) ISOLATED(FORM)) PEH(* FINAL(FORM) INITIAL(FORM) ISOLATED(FORM) MEDIAL(FORM)",
  "WITH(SMALL(MEEM(ABOVE) V))) PEHEH(* FINAL(FORM) INITIAL(FORM) ISOLATED(FORM) MEDIAL(FORM))",
  "QAF(* FINAL(FORM) INITIAL(FORM) ISOLATED(FORM) MEDIAL(FORM) WITH(DOT(ABOVE BELOW(*",
  "AND(NO(DOTS(ABOVE))))) THREE(DOTS(ABOVE)))) REH(* FINAL(FORM) ISOLATED(FORM) WITH(DOT(BELOW(*",
  "AND(DOT(ABOVE)))) FOUR(DOTS(ABOVE)) HAMZA(ABOVE) INVERTED(V) LOOP RING",
  "SMALL(ARABIC(LETTER(TAH(AND(TWO(DOTS))))) NOON(ABOVE) V(* BELOW)) STROKE TWO(DOTS(ABOVE",
  "VERTICALLY(ABOVE))))) RNOON(* FINAL(FORM) INITIAL(FORM) ISOLATED(FORM) MEDIAL(FORM))",
  "ROHINGYA(YEH) RREH(* FINAL(FORM) ISOLATED(FORM)) SAD(* FINAL(FORM) INITIAL(FORM)",
  "ISOLATED(FORM) MEDIAL(FORM) WITH(THREE(DOTS(ABOVE BELOW)) TWO(DOTS(BELOW)))) SEEN(*",
  "FINAL(FORM) INITIAL(FORM) ISOLATED(FORM) MEDIAL(FORM) WITH(DOT(BELOW(AND(DOT(ABOVE))))",
  "EXTENDED(ARABIC-INDIC(DIGIT(FOUR(ABOVE)))) FOUR(DOTS(ABOVE)) INVERTED(V)",
  "SMALL(ARABIC(LETTER(TAH(AND(TWO(DOTS)))))) THREE(DOTS(BELOW(* AND(THREE(DOTS(ABOVE))))))",
  "TWO(DOTS(VERTICALLY(ABOVE))))) SHEEN(* FINAL(FORM) INITIAL(FORM) ISOLATED(FORM) MEDIAL(FORM)",
  "WITH(DOT(BELOW))) STRAIGHT(WAW) SUPERSCRIPT(ALEF) SWASH(KAF) TAH(* FINAL(FORM) INITIAL(FORM)",
  "ISOLATED(FORM) MEDIAL(FORM) WITH(DOT(BELOW) THREE(DOTS(ABOVE BELOW)) TWO(DOTS(ABOVE))))",
  "TCHEH(* FINAL(FORM) INITIAL(FORM) ISOLATED(FORM) MEDIAL(FORM) WITH(DOT(ABOVE) SMALL(V)))",
  "TCHEHEH(* FINAL(FORM) INITIAL(FORM) ISOLATED(FORM) MEDIAL(FORM)) TEH(* FINAL(FORM)",
  "INITIAL(FORM) ISOLATED(FORM) MARBUTA(* FINAL(FORM) GOAL ISOLATED(FORM)) MEDIAL(FORM)",
  "WITH(RING SMALL(TEH(ABOVE) V) THREE(DOTS(ABOVE(DOWNWARDS))))) TEHEH(* FINAL(FORM)",
  "INITIAL(FORM) ISOLATED(FORM) MEDIAL(FORM)) THAL(* FINAL(FORM) ISOLATED(FORM)) THEH(*",
  "FINAL(FORM) INITIAL(FORM) ISOLATED(FORM) MEDIAL(FORM)) THIN(YEH) TTEH(* FINAL(FORM)",
  "INITIAL(FORM) ISOLATED(FORM) MEDIAL(FORM) WITH(SMALL(V))) TTEHEH(* FINAL(FORM) INITIAL(FORM)",
  "ISOLATED(FORM) MEDIAL(FORM)) U(* FINAL(FORM) ISOLATED(FORM) WITH(HAMZA(ABOVE(*",
  "ISOLATED(FORM))))) UIGHUR(KAZAKH(KIRGHIZ(ALEF(MAKSURA(INITIAL(FORM) MEDIAL(FORM)))))) VE(*",
  "FINAL(FORM) ISOLATED(FORM)) VEH(* FINAL(FORM) INITIAL(FORM) ISOLATED(FORM) MEDIAL(FORM))",
  "WAW(* FINAL(FORM) ISOLATED(FORM) WITH(DOT(ABOVE WITHIN)",
  "EXTENDED(ARABIC-INDIC(DIGIT(THREE(ABOVE) TWO(ABOVE)))) HAMZA(ABOVE(* FINAL(FORM)",
  "ISOLATED(FORM))) RING TWO(DOTS(ABOVE)))) YEH(* BARREE(* FINAL(FORM) ISOLATED(FORM)",
  "WITH(EXTENDED(ARABIC-INDIC(DIGIT(THREE(ABOVE) TWO(ABOVE)))) HAMZA(ABOVE(* FINAL(FORM)",
  "ISOLATED(FORM))))) FINAL(FORM) INITIAL(FORM) ISOLATED(FORM) MEDIAL(FORM) WITH(HAMZA(ABOVE(*",
  "FINAL(FORM) INITIAL(FORM) ISOLATED(FORM) MEDIAL(FORM))) SMALL(V) TAIL THREE(DOTS(BELOW))",
  "TWO(DOTS(BELOW(AND(DOT(ABOVE) HAMZA(ABOVE) SMALL(NOON(ABOVE)))))))) YU(* FINAL(FORM)",
  "ISOLATED(FORM)) ZAH(* FINAL(FORM) INITIAL(FORM) ISOLATED(FORM) MEDIAL(FORM)) ZAIN(*",
  "FINAL(FORM) ISOLATED(FORM) WITH(INVERTED(V(ABOVE)))))",
  "LIGATURE(AIN(WITH(ALEF(MAKSURA(FINAL(FORM) ISOLATED(FORM))) JEEM(INITIAL(FORM) ISOLATED(FORM)",
  "WITH(MEEM(FINAL(FORM) INITIAL(FORM)))) MEEM(INITIAL(FORM) ISOLATED(FORM)",
  "WITH(ALEF(MAKSURA(FINAL(FORM))) MEEM(FINAL(FORM) INITIAL(FORM)) YEH(FINAL(FORM))))",
  "YEH(FINAL(FORM) ISOLATED(FORM)))) AKBAR(ISOLATED(FORM)) ALAYHAA(AS-SALAAM)",
  "ALAYHE(ISOLATED(FORM)) ALAYHI(AS-SALAAM AS-SALAATU(WAS-SALAAM)) ALAYHIM(AS-SALAAM)",
  "ALAYHIMAA(AS-SALAAM) ALEF(MAKSURA(WITH(SUPERSCRIPT(ALEF(FINAL(FORM) ISOLATED(FORM)))))",
  "WITH(FATHATAN(FINAL(FORM) ISOLATED(FORM)))) ALLAH(ISOLATED(FORM)) AZZA(WA(JALL))",
  "BEH(WITH(ALEF(MAKSURA(FINAL(FORM) ISOLATED(FORM))) HAH(INITIAL(FORM) ISOLATED(FORM)",
  "WITH(YEH(FINAL(FORM)))) HEH(INITIAL(FORM) MEDIAL(FORM)) JEEM(INITIAL(FORM) ISOLATED(FORM))",
  "KHAH(INITIAL(FORM) ISOLATED(FORM) WITH(YEH(FINAL(FORM)))) MEEM(FINAL(FORM) INITIAL(FORM)",
  "ISOLATED(FORM) MEDIAL(FORM)) NOON(FINAL(FORM)) REH(FINAL(FORM)) YEH(FINAL(FORM)",
  "ISOLATED(FORM)) ZAIN(FINAL(FORM)))) BISMILLAH(AR-RAHMAN(AR-RAHEEM))",
  "DAD(WITH(ALEF(MAKSURA(FINAL(FORM) ISOLATED(FORM))) HAH(INITIAL(FORM) ISOLATED(FORM)",
  "WITH(ALEF(MAKSURA(FINAL(FORM))) YEH(FINAL(FORM)))) JEEM(INITIAL(FORM) ISOLATED(FORM))",
  "KHAH(INITIAL(FORM) ISOLATED(FORM) WITH(MEEM(FINAL(FORM) INITIAL(FORM)))) MEEM(INITIAL(FORM)",
  "ISOLATED(FORM)) REH(FINAL(FORM) ISOLATED(FORM)) YEH(FINAL(FORM) ISOLATED(FORM))))",
  "FEH(WITH(ALEF(MAKSURA(FINAL(FORM) ISOLATED(FORM))) HAH(INITIAL(FORM) ISOLATED(FORM))",
  "JEEM(INITIAL(FORM) ISOLATED(FORM)) KHAH(INITIAL(FORM) ISOLATED(FORM) WITH(MEEM(FINAL(FORM)",
  "INITIAL(FORM)))) MEEM(INITIAL(FORM) ISOLATED(FORM) WITH(YEH(FINAL(FORM)))) YEH(FINAL(FORM)",
  "ISOLATED(FORM)))) GHAIN(WITH(ALEF(MAKSURA(FINAL(FORM) ISOLATED(FORM))) JEEM(INITIAL(FORM)",
  "ISOLATED(FORM)) MEEM(INITIAL(FORM) ISOLATED(FORM) WITH(ALEF(MAKSURA(FINAL(FORM)))",
  "MEEM(FINAL(FORM)) YEH(FINAL(FORM)))) YEH(FINAL(FORM) ISOLATED(FORM))))",
  "HAH(WITH(ALEF(MAKSURA(FINAL(FORM) ISOLATED(FORM))) JEEM(INITIAL(FORM) ISOLATED(FORM)",
  "WITH(YEH(FINAL(FORM)))) MEEM(INITIAL(FORM) ISOLATED(FORM) WITH(ALEF(MAKSURA(FINAL(FORM)))",
  "YEH(FINAL(FORM)))) YEH(FINAL(FORM) ISOLATED(FORM)))) HEH(WITH(ALEF(MAKSURA(ISOLATED(FORM)))",
  "JEEM(INITIAL(FORM) ISOLATED(FORM)) MEEM(INITIAL(FORM) ISOLATED(FORM) WITH(JEEM(INITIAL(FORM))",
  "MEEM(INITIAL(FORM)))) SUPERSCRIPT(ALEF(INITIAL(FORM))) YEH(ISOLATED(FORM)))) JALLAJALALOUHOU",
  "JEEM(WITH(ALEF(MAKSURA(FINAL(FORM) ISOLATED(FORM))) HAH(INITIAL(FORM) ISOLATED(FORM)",
  "WITH(ALEF(MAKSURA(FINAL(FORM))) YEH(FINAL(FORM)))) MEEM(INITIAL(FORM) ISOLATED(FORM)",
  "WITH(ALEF(MAKSURA(FINAL(FORM))) HAH(FINAL(FORM) INITIAL(FORM)) YEH(FINAL(FORM))))",
  "YEH(FINAL(FORM) ISOLATED(FORM)))) KAF(WITH(ALEF(FINAL(FORM) ISOLATED(FORM)",
  "MAKSURA(FINAL(FORM) ISOLATED(FORM))) HAH(INITIAL(FORM) ISOLATED(FORM)) JEEM(INITIAL(FORM)",
  "ISOLATED(FORM)) KHAH(INITIAL(FORM) ISOLATED(FORM)) LAM(FINAL(FORM) INITIAL(FORM)",
  "ISOLATED(FORM) MEDIAL(FORM)) MEEM(FINAL(FORM) INITIAL(FORM) ISOLATED(FORM) MEDIAL(FORM)",
  "WITH(MEEM(FINAL(FORM) INITIAL(FORM)) YEH(FINAL(FORM)))) YEH(FINAL(FORM) ISOLATED(FORM))))",
  "KHAH(WITH(ALEF(MAKSURA(FINAL(FORM) ISOLATED(FORM))) HAH(ISOLATED(FORM)) JEEM(INITIAL(FORM)",
  "ISOLATED(FORM)) MEEM(INITIAL(FORM) ISOLATED(FORM)) YEH(FINAL(FORM) ISOLATED(FORM))))",
  "LAM(WITH(ALEF(FINAL(FORM) ISOLATED(FORM) MAKSURA(FINAL(FORM) ISOLATED(FORM))",
  "WITH(HAMZA(ABOVE(FINAL(FORM) ISOLATED(FORM)) BELOW(FINAL(FORM) ISOLATED(FORM)))",
  "MADDA(ABOVE(FINAL(FORM) ISOLATED(FORM))))) HAH(INITIAL(FORM) ISOLATED(FORM)",
  "WITH(ALEF(MAKSURA(FINAL(FORM))) MEEM(FINAL(FORM) INITIAL(FORM)) YEH(FINAL(FORM))))",
  "HEH(INITIAL(FORM)) JEEM(INITIAL(FORM) ISOLATED(FORM) WITH(JEEM(FINAL(FORM) INITIAL(FORM))",
  "MEEM(FINAL(FORM) INITIAL(FORM)) YEH(FINAL(FORM)))) KHAH(INITIAL(FORM) ISOLATED(FORM)",
  "WITH(MEEM(FINAL(FORM) INITIAL(FORM)))) MEEM(FINAL(FORM) INITIAL(FORM) ISOLATED(FORM)",
  "MEDIAL(FORM) WITH(HAH(FINAL(FORM) INITIAL(FORM)) YEH(FINAL(FORM)))) YEH(FINAL(FORM)",
  "ISOLATED(FORM)))) MEEM(WITH(ALEF(FINAL(FORM) MAKSURA(ISOLATED(FORM))) HAH(INITIAL(FORM)",
  "ISOLATED(FORM) WITH(JEEM(INITIAL(FORM)) MEEM(INITIAL(FORM)) YEH(FINAL(FORM))))",
  "JEEM(INITIAL(FORM) ISOLATED(FORM) WITH(HAH(INITIAL(FORM)) KHAH(INITIAL(FORM))",
  "MEEM(INITIAL(FORM)) YEH(FINAL(FORM)))) KHAH(INITIAL(FORM) ISOLATED(FORM)",
  "WITH(JEEM(INITIAL(FORM)) MEEM(INITIAL(FORM)) YEH(FINAL(FORM)))) MEEM(FINAL(FORM)",
  "INITIAL(FORM) ISOLATED(FORM) WITH(YEH(FINAL(FORM)))) YEH(ISOLATED(FORM))))",
  "MOHAMMAD(ISOLATED(FORM)) NOON(WITH(ALEF(MAKSURA(FINAL(FORM) ISOLATED(FORM)))",
  "HAH(INITIAL(FORM) ISOLATED(FORM) WITH(ALEF(MAKSURA(FINAL(FORM))) MEEM(INITIAL(FORM))",
  "YEH(FINAL(FORM)))) HEH(INITIAL(FORM) MEDIAL(FORM)) JEEM(INITIAL(FORM) ISOLATED(FORM)",
  "WITH(ALEF(MAKSURA(FINAL(FORM))) HAH(FINAL(FORM) INITIAL(FORM)) MEEM(FINAL(FORM)",
  "INITIAL(FORM)) YEH(FINAL(FORM)))) KHAH(INITIAL(FORM) ISOLATED(FORM)) MEEM(FINAL(FORM)",
  "INITIAL(FORM) ISOLATED(FORM) MEDIAL(FORM) WITH(ALEF(MAKSURA(FINAL(FORM))) YEH(FINAL(FORM))))",
  "NOON(FINAL(FORM)) REH(FINAL(FORM)) YEH(FINAL(FORM) ISOLATED(FORM)) ZAIN(FINAL(FORM))))",
  "QAF(WITH(ALEF(MAKSURA(FINAL(FORM) ISOLATED(FORM))) HAH(INITIAL(FORM) ISOLATED(FORM))",
  "MEEM(INITIAL(FORM) ISOLATED(FORM) WITH(HAH(FINAL(FORM) INITIAL(FORM)) MEEM(FINAL(FORM))",
  "YEH(FINAL(FORM)))) YEH(FINAL(FORM) ISOLATED(FORM))))",
  "QALA(USED(AS(KORANIC(STOP(SIGN(ISOLATED(FORM))))))) QUDDISA(SIRRAH) RADI(ALLAAHU(ANH ANHAA",
  "ANHUM ANHUMAA ANHUNNA)) RAHIMAHU(ALLAAH) RAHIMAHUM(ALLAAH) RASOUL(ISOLATED(FORM))",
  "REH(WITH(SUPERSCRIPT(ALEF(ISOLATED(FORM))))) SAD(WITH(ALEF(MAKSURA(FINAL(FORM)",
  "ISOLATED(FORM))) HAH(INITIAL(FORM) ISOLATED(FORM) WITH(HAH(FINAL(FORM) INITIAL(FORM))",
  "YEH(FINAL(FORM)))) KHAH(INITIAL(FORM)) MEEM(INITIAL(FORM) ISOLATED(FORM)",
  "WITH(MEEM(FINAL(FORM) INITIAL(FORM)))) REH(FINAL(FORM) ISOLATED(FORM)) YEH(FINAL(FORM)",
  "ISOLATED(FORM)))) SALAAMUHU(ALAYNAA) SALAM(ISOLATED(FORM)) SALLA(ISOLATED(FORM)",
  "USED(AS(KORANIC(STOP(SIGN(ISOLATED(FORM))))))) SALLALLAAHU(ALAYHI(WA-AALIH))",
  "SALLALLAHOU(ALAYHE(WASALLAM)) SALLALLAHU(ALAYHI(WAAALIHEE(WA-SALLAM)))",
  "SEEN(WITH(ALEF(MAKSURA(FINAL(FORM) ISOLATED(FORM))) HAH(INITIAL(FORM) ISOLATED(FORM)",
  "MEDIAL(FORM) WITH(JEEM(INITIAL(FORM)))) HEH(INITIAL(FORM) MEDIAL(FORM)) JEEM(INITIAL(FORM)",
  "ISOLATED(FORM) MEDIAL(FORM) WITH(ALEF(MAKSURA(FINAL(FORM))) HAH(INITIAL(FORM))))",
  "KHAH(INITIAL(FORM) ISOLATED(FORM) MEDIAL(FORM) WITH(ALEF(MAKSURA(FINAL(FORM)))",
  "YEH(FINAL(FORM)))) MEEM(INITIAL(FORM) ISOLATED(FORM) MEDIAL(FORM) WITH(HAH(FINAL(FORM)",
  "INITIAL(FORM)) JEEM(INITIAL(FORM)) MEEM(FINAL(FORM) INITIAL(FORM)))) REH(FINAL(FORM)",
  "ISOLATED(FORM)) YEH(FINAL(FORM) ISOLATED(FORM)))) SHADDA(WITH(DAMMA(ISOLATED(FORM)",
  "MEDIAL(FORM)) DAMMATAN(ISOLATED(FORM)) FATHA(ISOLATED(FORM) MEDIAL(FORM))",
  "KASRA(ISOLATED(FORM) MEDIAL(FORM)) KASRATAN(ISOLATED(FORM))",
  "SUPERSCRIPT(ALEF(ISOLATED(FORM))))) SHEEN(WITH(ALEF(MAKSURA(FINAL(FORM) ISOLATED(FORM)))",
  "HAH(FINAL(FORM) INITIAL(FORM) ISOLATED(FORM) MEDIAL(FORM) WITH(MEEM(FINAL(FORM)",
  "INITIAL(FORM)) YEH(FINAL(FORM)))) HEH(INITIAL(FORM) MEDIAL(FORM)) JEEM(FINAL(FORM)",
  "INITIAL(FORM) ISOLATED(FORM) MEDIAL(FORM) WITH(YEH(FINAL(FORM)))) KHAH(FINAL(FORM)",
  "INITIAL(FORM) ISOLATED(FORM) MEDIAL(FORM)) MEEM(FINAL(FORM) INITIAL(FORM) ISOLATED(FORM)",
  "MEDIAL(FORM) WITH(KHAH(FINAL(FORM) INITIAL(FORM)) MEEM(FINAL(FORM) INITIAL(FORM))))",
  "REH(FINAL(FORM) ISOLATED(FORM)) YEH(FINAL(FORM) ISOLATED(FORM)))) SUBHAANAHU(WA(TAAALAA))",
  "TABAARAKA(WA-TAAALAA) TAH(WITH(ALEF(MAKSURA(FINAL(FORM) ISOLATED(FORM))) HAH(INITIAL(FORM)",
  "ISOLATED(FORM)) MEEM(INITIAL(FORM) ISOLATED(FORM) MEDIAL(FORM) WITH(HAH(FINAL(FORM)",
  "INITIAL(FORM)) MEEM(INITIAL(FORM)) YEH(FINAL(FORM)))) YEH(FINAL(FORM) ISOLATED(FORM))))",
  "TEH(WITH(ALEF(MAKSURA(FINAL(FORM) ISOLATED(FORM))) HAH(INITIAL(FORM) ISOLATED(FORM)",
  "WITH(JEEM(FINAL(FORM) INITIAL(FORM)) MEEM(INITIAL(FORM)))) HEH(INITIAL(FORM) MEDIAL(FORM))",
  "JEEM(INITIAL(FORM) ISOLATED(FORM) WITH(ALEF(MAKSURA(FINAL(FORM))) MEEM(INITIAL(FORM))",
  "YEH(FINAL(FORM)))) KHAH(INITIAL(FORM) ISOLATED(FORM) WITH(ALEF(MAKSURA(FINAL(FORM)))",
  "MEEM(INITIAL(FORM)) YEH(FINAL(FORM)))) MEEM(FINAL(FORM) INITIAL(FORM) ISOLATED(FORM)",
  "MEDIAL(FORM) WITH(ALEF(MAKSURA(FINAL(FORM))) HAH(INITIAL(FORM)) JEEM(INITIAL(FORM))",
  "KHAH(INITIAL(FORM)) YEH(FINAL(FORM)))) NOON(FINAL(FORM)) REH(FINAL(FORM)) YEH(FINAL(FORM)",
  "ISOLATED(FORM)) ZAIN(FINAL(FORM)))) THAL(WITH(SUPERSCRIPT(ALEF(ISOLATED(FORM)))))",
  "THEH(WITH(ALEF(MAKSURA(FINAL(FORM) ISOLATED(FORM))) HEH(MEDIAL(FORM)) JEEM(ISOLATED(FORM))",
  "MEEM(FINAL(FORM) INITIAL(FORM) ISOLATED(FORM) MEDIAL(FORM)) NOON(FINAL(FORM))",
  "REH(FINAL(FORM)) YEH(FINAL(FORM) ISOLATED(FORM)) ZAIN(FINAL(FORM))))",
  "UIGHUR(KIRGHIZ(YEH(WITH(HAMZA(ABOVE(WITH(ALEF(MAKSURA(FINAL(FORM) INITIAL(FORM)",
  "ISOLATED(FORM)))))))))) WASALLAM(ISOLATED(FORM)) YEH(WITH(ALEF(MAKSURA(FINAL(FORM)",
  "ISOLATED(FORM))) HAH(INITIAL(FORM) ISOLATED(FORM) WITH(YEH(FINAL(FORM))))",
  "HAMZA(ABOVE(WITH(AE(FINAL(FORM) ISOLATED(FORM)) ALEF(FINAL(FORM) ISOLATED(FORM)",
  "MAKSURA(FINAL(FORM) ISOLATED(FORM))) E(FINAL(FORM) INITIAL(FORM) ISOLATED(FORM))",
  "HAH(INITIAL(FORM) ISOLATED(FORM)) HEH(INITIAL(FORM) MEDIAL(FORM)) JEEM(INITIAL(FORM)",
  "ISOLATED(FORM)) KHAH(INITIAL(FORM)) MEEM(FINAL(FORM) INITIAL(FORM) ISOLATED(FORM)",
  "MEDIAL(FORM)) NOON(FINAL(FORM)) OE(FINAL(FORM) ISOLATED(FORM)) REH(FINAL(FORM)) U(FINAL(FORM)",
  "ISOLATED(FORM)) WAW(FINAL(FORM) ISOLATED(FORM)) YEH(FINAL(FORM) ISOLATED(FORM))",
  "YU(FINAL(FORM) ISOLATED(FORM)) ZAIN(FINAL(FORM))))) HEH(INITIAL(FORM) MEDIAL(FORM))",
  "JEEM(INITIAL(FORM) ISOLATED(FORM) WITH(YEH(FINAL(FORM)))) KHAH(INITIAL(FORM) ISOLATED(FORM))",
  "MEEM(FINAL(FORM) INITIAL(FORM) ISOLATED(FORM) MEDIAL(FORM) WITH(MEEM(FINAL(FORM)",
  "INITIAL(FORM)) YEH(FINAL(FORM)))) NOON(FINAL(FORM)) REH(FINAL(FORM)) YEH(FINAL(FORM)",
  "ISOLATED(FORM)) ZAIN(FINAL(FORM)))) ZAH(WITH(MEEM(INITIAL(FORM) ISOLATED(FORM)",
  "MEDIAL(FORM))))) MADDA(WAAJIB) MADDAH(ABOVE) MARK(NOON(GHUNNA) SIDEWAYS(NOON(GHUNNA)))",
  "MATHEMATICAL(AIN ALEF BEH DAD DAL DOTLESS(BEH FEH NOON QAF) DOUBLE-STRUCK(AIN BEH DAD DAL FEH",
  "GHAIN HAH JEEM KHAH LAM MEEM NOON QAF REH SAD SEEN SHEEN TAH TEH THAL THEH WAW YEH ZAH ZAIN)",
  "FEH GHAIN HAH INITIAL(AIN BEH DAD FEH GHAIN HAH HEH JEEM KAF KHAH LAM MEEM NOON QAF SAD SEEN",
  "SHEEN TEH THEH YEH) JEEM KAF KHAH LAM LOOPED(AIN ALEF BEH DAD DAL FEH GHAIN HAH HEH JEEM KHAH",
  "LAM MEEM NOON QAF REH SAD SEEN SHEEN TAH TEH THAL THEH WAW YEH ZAH ZAIN) MEEM NOON",
  "OPERATOR(HAH(WITH(DAL)) MEEM(WITH(HAH(WITH(TATWEEL))))) QAF REH SAD SEEN SHEEN STRETCHED(AIN",
  "BEH DAD DOTLESS(BEH FEH) FEH GHAIN HAH HEH JEEM KAF KHAH MEEM NOON QAF SAD SEEN SHEEN TAH TEH",
  "THEH YEH ZAH) TAH TAILED(AIN DAD DOTLESS(NOON QAF) GHAIN HAH JEEM KHAH LAM NOON QAF SAD SEEN",
  "SHEEN YEH) TEH THAL THEH WAW YEH ZAH ZAIN) NUMBER(MARK(ABOVE) SIGN) OPEN(DAMMATAN FATHATAN",
  "KASRATAN) PERCENT(SIGN) PIASTRE(MARK(ABOVE)) PLACE(OF(SAJDAH)) POETIC(VERSE(SIGN))",
  "POUND(MARK(ABOVE)) QUESTION(MARK) RAISED(ROUND(DOT)) RAY REVERSED(DAMMA)",
  "RIGHT(ARROWHEAD(ABOVE(* WITH(DOT)) BELOW)) ROUNDED(HIGH(STOP(WITH(FILLED(CENTRE)))))",
  "SEMICOLON SHADDA(* ISOLATED(FORM) MEDIAL(FORM)) SIGN(ALAYHE(ASSALLAM) MISRA",
  "RADI(ALLAHOU(ANHU)) RAHMATULLAH(ALAYHE) SAFHA SALLALLAHOU(ALAYHE(WASSALLAM)) SAMVAT SANAH",
  "SINDHI(AMPERSAND POSTPOSITION(MEN)) TAKHALLUS) SMALL(DAMMA FARSI(YEH) FATHA HIGH(AIN",
  "DOTLESS(HEAD(OF(KHAH))) FARSI(YEH) FOOTNOTE(MARKER) JEEM LAM(ALEF)",
  "LIGATURE(ALEF(WITH(LAM(WITH(YEH)))) QAF(WITH(LAM(WITH(ALEF(MAKSURA)))))",
  "SAD(WITH(LAM(WITH(ALEF(MAKSURA)))))) MADDA MEEM(INITIAL(FORM) ISOLATED(FORM)) NOON(*",
  "WITH(KASRA)) QAF ROUNDED(ZERO) SAD SEEN SIGN(SAFHA) TAH THREE(DOTS)",
  "UPRIGHT(RECTANGULAR(ZERO)) WAW WORD(AL-JUZ AN-NISF AR-RUB AS-SAJDA ATH-THALATHA QIF SAH SAKTA",
  "WAQFA) YEH(* BARREE(WITH(TWO(DOTS(BELOW))))) ZAH ZAIN) KASRA LOW(MEEM NOON(WITH(KASRA)) SEEN",
  "WAW WORD(IMAALA ISHMAAM TASHEEL)) WAW YEH) START(OF(RUB(EL(HIZB)))) SUBSCRIPT(ALEF) SUKUN(*",
  "BELOW ISOLATED(FORM) MEDIAL(FORM)) SUPERSCRIPT(ALEF(MOKHASSAS)) SYMBOL(DOT(ABOVE BELOW)",
  "DOUBLE(VERTICAL(BAR(BELOW))) FOUR(DOTS(ABOVE BELOW)) RING SMALL(TAH(ABOVE BELOW))",
  "THREE(DOTS(ABOVE BELOW POINTING(DOWNWARDS(ABOVE BELOW)))) TWO(DOTS(ABOVE BELOW",
  "VERTICALLY(ABOVE BELOW))) WASLA(ABOVE)) TAIL(FRAGMENT) TATWEEL(* WITH(FATHATAN(ABOVE)",
  "OVERSTRUCK(HAMZA WAW) TWO(DOTS(BELOW)))) THOUSANDS(SEPARATOR) TONE(LOOP(ABOVE BELOW)",
  "ONE(DOT(ABOVE BELOW)) TWO(DOTS(ABOVE BELOW))) TRIPLE(DOT(PUNCTUATION(MARK)))",
  "TURNED(DAMMA(BELOW)) VERTICAL(TAIL) VOWEL(SIGN(DOT(BELOW) INVERTED(SMALL(V(ABOVE)))",
  "SMALL(V(ABOVE)))) WAVY(HAMZA(BELOW)) ZWARAKAY) ARABIC-INDIC(CUBE(ROOT) DIGIT(EIGHT FIVE FOUR",
  "NINE ONE SEVEN SIX THREE TWO ZERO) FOURTH(ROOT) PER(MILLE(SIGN) TEN(THOUSAND(SIGN)))) ARC",
  "ARIES ARMENIAN(ABBREVIATION(MARK) APOSTROPHE CAPITAL(LETTER(AYB BEN CA CHA CHEH CO DA ECH EH",
  "ET FEH GHAD GIM HO INI JA JHEH KEH KEN LIWN MEN NOW OH PEH PIWR RA REH SEH SHA TIWN TO VEW VO",
  "XEH YI YIWN ZA ZHE)) COMMA DRAM(SIGN) EMPHASIS(MARK) EXCLAMATION(MARK) FULL(STOP) HYPHEN",
  "MODIFIER(LETTER(LEFT(HALF(RING)))) QUESTION(MARK) SMALL(LETTER(AYB BEN CA CHA CHEH CO DA ECH",
  "EH ET FEH GHAD GIM HO INI JA JHEH KEH KEN LIWN MEN NOW OH PEH PIWR RA REH SEH SHA TIWN TO",
  "TURNED(AYB) VEW VO XEH YI(* WITH(STROKE)) YIWN ZA ZHE) LIGATURE(ECH(YIWN) MEN(ECH INI NOW",
  "XEH) VEW(NOW)))) ARROW(POINTING(DOWNWARDS(THEN(CURVING(LEFTWARDS RIGHTWARDS)))",
  "RIGHTWARDS(THEN(CURVING(DOWNWARDS SOUTH(WEST) UPWARDS))) UPWARDS(THEN(NORTH(WEST)))))",
  "ARROWHEAD-SHAPED(POINTER) ARTICULATED(LORRY) ARTIST(PALETTE) ASCENDING(NODE) ASCIA(SYMBOL)",
  "ASSERTION ASTERISK(* OPERATOR) ASTERISM ASTONISHED(FACE) ASTRAEA",
  "ASTRONOMICAL(SYMBOL(FOR(URANUS))) ASYMPTOTICALLY(EQUAL(TO)) ATHLETIC(SHOE) ATOM(SYMBOL)",
  "AUBERGINE AUSTRAL(SIGN) AUTO(RICKSHAW) AUTOMATED(TELLER(MACHINE)) AUTOMOBILE",
  "AVESTAN(ABBREVIATION(MARK) LETTER(A AA AAN AAO AE AEE AN AO BE BHE CE DE DHE E EE FE GE GGE",
  "GHE HE HME I II JE KE LE ME NE NGE NGVE NGYE NNE NYE O OO PE RE SE SHE SHYE SSHE TE THE TTE U",
  "UU VE XE XVE XYE YE YYE ZE ZHE)) AVOCADO AXE"]

/-- The names that start with B. -/
def characterNamesB : List String := [
  "BABY(* ANGEL BOTTLE CHICK SYMBOL) BACK(OF(ENVELOPE) WITH(LEFTWARDS(ARROW(ABOVE))))",
  "BACK-TILTED(SHADOWED(WHITE(RIGHTWARDS(ARROW)))) BACKSLANTED(SOUTH(ARROW(WITH(HOOKED(TAIL)",
  "HORIZONTAL(TAIL))))) BACKSPACE BACON BACTRIAN(CAMEL) BADGER",
  "BADMINTON(RACQUET(AND(SHUTTLECOCK))) BAGEL BAGGAGE(CLAIM) BAGUETTE(BREAD) BALINESE(ADEG(ADEG)",
  "CARIK(PAMUNGKAH PAREREN SIKI) DIGIT(EIGHT FIVE FOUR NINE ONE SEVEN SIX THREE TWO ZERO)",
  "LETTER(AIKARA AKARA(* TEDUNG) ARCHAIC(JNYA) ASYURA(SASAK) BA(* KEMBANG) CA(* LACA) DA(* MADU",
  "MURDA(ALPAPRANA MAHAPRANA)) EF(SASAK) EKARA GA(* GORA) HA IKARA(* TEDUNG) JA(* JERA) KA(*",
  "MAHAPRANA) KAF(SASAK) KHOT(SASAK) LA(* LENGA(* TEDUNG)) MA NA(* RAMBAT) NGA NYA OKARA(*",
  "TEDUNG) PA(* KAPAL) RA(* REPA(* TEDUNG)) SA(* SAGA SAPA) TA(* LATIK MURDA(MAHAPRANA) TAWA)",
  "TZIR(SASAK) UKARA(* TEDUNG) VE(SASAK) WA YA ZAL(SASAK)) MUSICAL(SYMBOL(COMBINING(BENDE ENDEP",
  "GONG JEGOGAN KEMPLI(* WITH(JEGOGAN)) KEMPUL(* WITH(JEGOGAN)) TEGEH) DAENG DAING DANG(* GEDE",
  "SURANG) DENG DEUNG DING DONG DUNG LEFT-HAND(CLOSED(PLAK PLUK) OPEN(PANG PING PUNG))",
  "RIGHT-HAND(CLOSED(TAK TUK) OPEN(DAG DUG)))) PAMADA(* LANTANG) PAMENENG PANTI(* LANTANG)",
  "SIGN(BISAH CECEK REREKAN SURANG ULU(CANDRA RICEM)) VOWEL(SIGN(LA(LENGA(* TEDUNG)) PEPET(*",
  "TEDUNG) RA(REPA(* TEDUNG)) SUKU(* ILUT) TALING(* REPA(* TEDUNG) TEDUNG) TEDUNG ULU(* SARI)))",
  "WINDU) BALL(OF(YARN)) BALLET(SHOES) BALLOON BALLOON-SPOKED(ASTERISK) BALLOT(BOLD(SCRIPT(X))",
  "BOX(* WITH(BALLOT BOLD(CHECK SCRIPT(X)) CHECK LIGHT(X) SCRIPT(X) X)) SCRIPT(X) X) BAMUM(COLON",
  "COMBINING(MARK(KOQNDON TUKWENTIS)) COMMA FULL(STOP) LETTER(A EE FAAMAE FEE FOM FU I KA KEN",
  "KET KEUX KI KO KOGHOM KOVUU KPA KU KYEE LA LEEEE LI LOQ LU M MA MBAA MBEN MEEEE MEN MI MO MU",
  "NA NDAA NGA NGGA NGKWAEN NI NJAEM NJEE NJUAE NSHA NTEE NTUU NU NUAE NYI O PA PEE PEUX",
  "PHASE-A(FIRI GBIEE(FON) GHEUAEGHEUAE GHEUAERAE KAFA KAQ KET KEUKEUTNDA KPOQ KUOQ LAPAQ",
  "LET(KUT) LOMMAE LU LUAEP MAEKEUP MAEM MAEMBGBIEE MAEMKPEN MAEMVEUX MAENYI MAESI MANSUAE",
  "MAP(PIEET) MBANYI MBAQ MEUNJOMNDEUQ MGBASA MON(NGGEUAET) MOOMEUT MOOMPUQ MVEUAENGAM NAA(MFON)",
  "NAQ NDA(LEERAEWA) NDAANGGEUAET NEN NGANGU NGGEN NGKUE(MFON) NGKUENZEUM NIKA NJAM NKAARAE",
  "NKINDI NSHA NSHIEE NTAP(* MFAA NTAA) NTOQPEN NYET NYI NYIT(MONGKEUAEQ) NZA(MFON) NZUN(MEUT)",
  "PA(LEERAEWA) PAAM PAARAE PAMSHAE PASHAE PET PON(MFON(PIPAEMBA PIPAEMGBIEE) PA(NJI(PIPAEMBA",
  "PIPAEMGBIEE))) PUP ROM SEUNYAM SHINDA(PA(NJI)) SHIRAE SHOQ(NSHUT(YUM)) SHUENSHUET SHUM SISA",
  "SONJAM SOQ SOT SUU TEUAEN TEUTEUWEN TITA(MFON) TU(MAEMBA) TUAEP U(YUQ(NAE)) UNKNOWN VEE)",
  "PHASE-B(FEE FEUX GHEUGHEN GHEUGHEUAEM KAM KEUAEM KEUPUQ KEUYEUX KIEEM KIQ LAANAE",
  "LAM(NSHUT(NYAM)) LET LOM(NTEUM) MA(* NJEUAENA NJUQA) MBA(MAELEE) MBAARAE MBEURI MBIT(MBAAKET)",
  "MBUOQ MEUQ MEUT(NGGEET) MFIYAQ MFON(TEUAEQ) MONTIEEN NDU(NJAA) NGGAAM NGGEU(MBU) NGGUOQ(*",
  "LARGE) NGKINDI(MVOP) NGOM NSEN NSHUET NTIEE(SHEUOQ) NYAEMAE NYI(NTEUM) PARUM PEESHI PIT",
  "PUNGAAM SAKEUAE SET(TU) SHET(NJAQ) SHEUAEQTU SIEE SUE TAAM TU(MAEMGBIEE NSIEE) VEUM WUAET",
  "YAFU(LEERAEWA) YEURAE) PHASE-C(BUNG FUE GBAYI GHAP GHARAE KAA KEN(FATIGUE LAW) KET KEUKAQ",
  "KEUM KEUSEUX KEUSHEUAEP KPARAQ KUOP(NKAARAE) KUT LAM LAP LIQ LU MA(KEUAERI NSIEE) MAEMBA",
  "MAESI MBAA(CABBAGE-TREE PICKET) MBANYI MBEEKEET MBERAE MBEUM MBEUX MBI MBIRIEEN MBIT MBUAEM",
  "MBUE MGBASAQ MIEE MUAE NANSANAQ NAQ NDAM NDAP NDEUAEREE NDEUT NDIDA NDOMBU NGAQ NGGEN NGGU",
  "NGGUAEN(NYAM) NGGUEET NGGUM NGGUON NGKAQ NGKUE(MAEMBA) NGOM NJAEM NJAM NJEEEE NJEUX NJUEQ NSA",
  "NSEUAEN NSHAQ NSOM NSUN NSUOT(NGOM) NTAA NTEN NTEUNGBA NTU(MBIT) NYIR(MKPARAQ(MEUN)) NZA",
  "NZEUM PEN PIN PIRIEEN RU SETFON SEUX SHIQ SHUEQ SUAET TAASHAE TET TEUTEUX TITA(YUE) TITUAEP",
  "VEUAEPEN VEUX WANGKUOQ WUP YAA YEUQ YU(MUOMAE) YUM YUWOQ) PHASE-D(FAA FEUFEUAET GHAA GHEUAE",
  "KET KEUAETMEUN KEUM KEUOT(MBUAE) KEUP KU KUN KUOM KUQ KWAET KYEE LEEEE LET LEUAEP LEUM LIEE",
  "LOQ LUM M MAENJET MALEERI MBAA(* SEVEN) MBUO MEEEE MEUN MEUT MFEUAE MFEUT MFIEE MFO MFON",
  "MGBEUN MGBIEE MGBOFUM MONI MU MVOP NDAM NDEE NDEUX NDON NGGAAM NGGAAMAE NGGAP NGGEUX NGGUOM",
  "NGGWAEN NGKAP NGKEUAEQ NGKEURI NGKIEE NGKUN NGKYEE NI NJAP NJEUAEM NJEUT NJI NJIEE NJUEQ",
  "NSHEE NSHUT NSIEEP NSIEET NSUM NTEE NTEUM NTUU NU NYAM NYET NYI NYUE PAP PEE PEUTAE PIP PUQ",
  "PUUT RAEM REN(MUCH OLD) RII SAP SAQ SEUAEQ SHEE SHEUAE SHEUX SHII SHOQ SHU SOT SUAE SUE SUU",
  "TAE TEEEE TEUAEN TEUN TEUT TI TOQ TU TUOT WAP WUAEN YAEMMAE YEN YUOM YUOP YUWOQ) PHASE-E(A FA",
  "FAQ FEE FOM FU(CALL I REMEDY) FUE FUET GBET GBEUX GHAAMAE GHET GHEUAE GHEUN GHEUX GHOM I KET",
  "KEUAE KEUX KI KO KPEUX KUET KUOP KUT LAAM LAP LAQ LEUAEM LOM LOON LOOT LOQ LU MA MAE MAEM MAP",
  "MAQ MBEE MBEUM MEN MFEUQ MGBA MGBEN MI MIEE MON MUAE MVI NA NAE NDAA(MY(HOUSE) SOFTNESS) NDAP",
  "NDIAQ NDIQ NDUN NGA NGEUREUT NGGEEEE NGGEUAE NGGEUAET NGGUAESHAE(NYAM) NGGUP NGGURAE NGKA",
  "NGKAAMI NGKEUAEM NGKEUX NGKUM NGKUP NGOP NGOQ NGUAE NGUAET NJAEMLI NJEE(* EPOCH) NJEUX NKOM",
  "NSHIEE NSHUE NSHUOP NTAP NTUM NYI(BETWEEN CLEAVER) NZAQ NZUQ O PA(PEOPLE PLURAL) PAA PAAM",
  "PEEM PEUT PEUX PI PIEEQ PIET PO POON PU PUAE PUAQ PUE PUM RAE RAQ REUX RIMGBA SAA SEE SET",
  "SHEUAEQ SHIQ SHO SHOQ SOM SUAEN TAA TAAQ TAEN(NTEUM) TAM TAQ TEN TEU TEUAEQ TOO TOON TOQ TUAE",
  "TUM TUMAE VEE VEUAE VOM WEUX WUE WUO YAP YEUAE YEUAET YEUM YEUX YIEE YIT YOQ(COVER SWIMMING)",
  "YUAEN YUEQ YUN YUQ) PHASE-F(EE FOM KA KEN KET KO KPA KU KYEE LA LI LOQ M MA MBAA MBEN MEEEE",
  "MO NDAA NGGA NGKWAEN NI NJAEM NJUAE NSHA NTEE NU NUAE NYI PEE PEUX PUAE REE REN REUX RIEE RII",
  "RU SAMBA SEUX SHII SHO SHU SI SUU TAA TAE TET U VUEQ WA WUE YA YOQ) PI PUAE PUE RAE REE REN",
  "REUX RIEE RII RU SAMBA SEUX SHEUX SHII SHO SHU SI SUU TAA TAE TEN TET TI U WA WUE YA YOQ YUQ)",
  "NJAEMLI QUESTION(MARK) SEMICOLON) BANANA BANJO BANK BANKNOTE(WITH(DOLLAR(SIGN) EURO(SIGN)",
  "POUND(SIGN) YEN(SIGN))) BAR(CHART OF(SOAP)) BARBER(POLE) BASEBALL BASKET",
  "BASKETBALL(AND(HOOP)) BASSA(VAH(COMBINING(HIGH(TONE) HIGH-LOW(TONE) LOW(TONE) LOW-MID(TONE)",
  "MID(TONE)) FULL(STOP) LETTER(A BA CE DHII DO E EE ENNI FA GAH GBU HWAH I JO KA KPAH MBE O OO",
  "PA SE TO U UWU VU WA WADDA YEIN YIE ZO))) BAT BATAK(CONSONANT(SIGN(H NG)) LETTER(A BA CA DA",
  "GA HA I JA KARO(BA) LA MA MANDAILING(HA NA SA) MBA NA NDA NGA NORTHERN(TA) NYA PA PAKPAK(WA)",
  "RA SA SIMALUNGUN(A GA HA LA MA PA RA SA WA YA) SOUTHERN(TA) U WA YA) PANGOLAT PANONGONAN",
  "SIGN(TOMPI) SYMBOL(BINDU(JUDUL NA(METEK) PANGOLAT PINARBORAS)) VOWEL(SIGN(E EE I KARO(I O) O",
  "PAKPAK(E) U(* FOR(SIMALUNGUN(SA)))))) BATH BATHTUB BATTERY BEACH(WITH(UMBRELLA))",
  "BEAMED(ASCENDING(MUSICAL(NOTES)) DESCENDING(MUSICAL(NOTES)) EIGHTH(NOTES) SIXTEENTH(NOTES))",
  "BEANS BEAR(FACE) BEARDED(PERSON) BEATING(HEART) BEAVER BECAUSE BED BEER(MUG) BEETLE BEL",
  "BELL(* PEPPER SYMBOL WITH(CANCELLATION(STROKE))) BELLHOP(BELL) BENGALI(ABBREVIATION(SIGN)",
  "ANJI AU(LENGTH(MARK)) CURRENCY(DENOMINATOR(SIXTEEN) NUMERATOR(FOUR ONE(*",
  "LESS(THAN(THE(DENOMINATOR)))) THREE TWO)) DIGIT(EIGHT FIVE FOUR NINE ONE SEVEN SIX THREE TWO",
  "ZERO) GANDA(MARK) ISSHAR LETTER(A AA AI AU BA BHA CA CHA DA DDA DDHA DHA E GA GHA HA I II JA",
  "JHA KA KHA KHANDA(TA) LA MA NA NGA NNA NYA O PA PHA RA(* WITH(LOWER(DIAGONAL)",
  "MIDDLE(DIAGONAL))) RHA RRA SA SHA SSA TA THA TTA TTHA U UU VEDIC(ANUSVARA) VOCALIC(L LL R RR)",
  "YA YYA) RUPEE(MARK SIGN) SANDHI(MARK) SIGN(ANUSVARA AVAGRAHA CANDRABINDU NUKTA VIRAMA",
  "VISARGA) VOWEL(SIGN(AA AI AU E I II O U UU VOCALIC(L LL R RR))))",
  "BENT(ARROW(POINTING(DOWNWARDS(THEN(NORTH(EAST)))))) BENTO(BOX) BENZENE(RING(* WITH(CIRCLE)))",
  "BET(SYMBOL) BETWEEN BEVERAGE(BOX) BHAIKSUKI(DANDA DIGIT(EIGHT FIVE FOUR NINE ONE SEVEN SIX",
  "THREE TWO ZERO) DOUBLE(DANDA) GAP(FILLER-1 FILLER-2) HUNDREDS(UNIT(MARK)) LETTER(A AA AI AU",
  "BA BHA CA CHA DA DDA DDHA DHA E GA GHA HA I II JA JHA KA KHA LA MA NA NGA NNA NYA O PA PHA RA",
  "SA SHA SSA TA THA TTA TTHA U UU VA VOCALIC(L R RR) YA) NUMBER(EIGHT EIGHTY FIFTY FIVE FORTY",
  "FOUR NINE NINETY ONE SEVEN SEVENTY SIX SIXTY TEN THIRTY THREE TWENTY TWO) SIGN(ANUSVARA",
  "AVAGRAHA CANDRABINDU VIRAMA VISARGA) VOWEL(SIGN(AA AI AU E I II O U UU VOCALIC(L R RR)))",
  "WORD(SEPARATOR)) BICYCLE BICYCLIST BIG(REVERSE(SOLIDUS) SOLIDUS) BIKINI BILLED(CAP) BILLIARDS",
  "BIOHAZARD(SIGN) BIRD BIRTHDAY(CAKE) BISON BITCOIN(SIGN) BITING(LIP) BLACK(BOWTIE",
  "CENTRE(WHITE(STAR)) CHESS(BISHOP(* ROTATED(NINETY(DEGREES) TWO(HUNDRED(SEVENTY(DEGREES)))))",
  "EQUIHOPPER(* ROTATED(NINETY(DEGREES))) KING(* ROTATED(NINETY(DEGREES)",
  "TWO(HUNDRED(SEVENTY(DEGREES))))) KNIGHT(* ROTATED(FORTY-FIVE(DEGREES) NINETY(DEGREES)",
  "ONE(HUNDRED(THIRTY-FIVE(DEGREES))) THREE(HUNDRED(FIFTEEN(DEGREES)))",
  "TWO(HUNDRED(SEVENTY(DEGREES) TWENTY-FIVE(DEGREES))))) KNIGHT-BISHOP KNIGHT-QUEEN KNIGHT-ROOK",
  "PAWN(* ROTATED(NINETY(DEGREES) TWO(HUNDRED(SEVENTY(DEGREES))))) QUEEN(*",
  "ROTATED(NINETY(DEGREES) TWO(HUNDRED(SEVENTY(DEGREES))))) ROOK(* ROTATED(NINETY(DEGREES)",
  "TWO(HUNDRED(SEVENTY(DEGREES))))) TURNED(BISHOP KING KNIGHT PAWN QUEEN ROOK)) CIRCLE(*",
  "FOR(RECORD) WITH(DOWN(ARROW) TWO(WHITE(DOTS)) WHITE(DOT(RIGHT)))) CLUB(SUIT)",
  "CROSS(ON(SHIELD)) CURVED(DOWNWARDS(AND(LEFTWARDS(ARROW) RIGHTWARDS(ARROW)))",
  "LEFTWARDS(AND(DOWNWARDS(ARROW) UPWARDS(ARROW))) RIGHTWARDS(AND(DOWNWARDS(ARROW)",
  "UPWARDS(ARROW))) UPWARDS(AND(LEFTWARDS(ARROW) RIGHTWARDS(ARROW)))) DIAMOND(* CENTRED",
  "MINUS(WHITE(X)) ON(CROSS) SUIT WITH(DOWN(ARROW))) DOWN(POINTING(BACKHAND(INDEX)))",
  "DOWN-POINTING(DOUBLE(TRIANGLE) ISOSCELES(RIGHT(TRIANGLE)) SMALL(TRIANGLE) TRIANGLE)",
  "DOWNWARDS(EQUILATERAL(ARROWHEAD)) DRAUGHTS(KING MAN) DROPLET FLAG FLORETTE FOLDER",
  "FOUR(POINTED(STAR)) HARD(SHELL(FLOPPY(DISK))) HEART(* SUIT) HEXAGON HORIZONTAL(ELLIPSE)",
  "HOURGLASS LARGE(CIRCLE SQUARE) LEFT(LANE(MERGE) POINTING(BACKHAND(INDEX) INDEX))",
  "LEFT-POINTING(DOUBLE(TRIANGLE(* WITH(VERTICAL(BAR)))) ISOSCELES(RIGHT(TRIANGLE)) POINTER",
  "SMALL(TRIANGLE) TRIANGLE) LEFTWARDS(BULLET EQUILATERAL(ARROWHEAD)) LOWER(LEFT(TRIANGLE)",
  "RIGHT(TRIANGLE)) LOZENGE MEDIUM(DIAMOND DOWN-POINTING(TRIANGLE(* CENTRED))",
  "LEFT-POINTING(TRIANGLE(* CENTRED)) LOZENGE RIGHT-POINTING(TRIANGLE(* CENTRED)) SMALL(DIAMOND",
  "LOZENGE SQUARE) SQUARE UP-POINTING(TRIANGLE(* CENTRED))) MOON(LILITH) NIB OCTAGON",
  "PARALLELOGRAM PENNANT PENTAGON PUSHPIN QUESTION(MARK(ORNAMENT)) RECTANGLE",
  "RIGHT(POINTING(BACKHAND(INDEX) INDEX)) RIGHT-POINTING(DOUBLE(TRIANGLE(* WITH(VERTICAL(BAR))))",
  "ISOSCELES(RIGHT(TRIANGLE)) PENTAGON POINTER SMALL(TRIANGLE) TRIANGLE(*",
  "WITH(DOUBLE(VERTICAL(BAR))))) RIGHTWARDS(ARROW ARROWHEAD BULLET EQUILATERAL(ARROWHEAD))",
  "ROSETTE SAFETY(SCISSORS) SCISSORS SHOGI(PIECE) SKULL(AND(CROSSBONES)) SLIGHTLY(SMALL(CIRCLE",
  "SQUARE)) SMALL(DIAMOND LOZENGE SQUARE STAR) SMILING(FACE) SNOWMAN SPADE(SUIT) SQUARE(* BUTTON",
  "CENTRED FOR(STOP)) STAR SUN(WITH(RAYS)) TELEPHONE TINY(DIAMOND LOZENGE SQUARE)",
  "TOUCHTONE(TELEPHONE) TRUCK TWO-WAY(LEFT(WAY(TRAFFIC))) UNIVERSAL(RECYCLING(SYMBOL))",
  "UP(POINTING(BACKHAND(INDEX))) UP-POINTING(DOUBLE(TRIANGLE) ISOSCELES(RIGHT(TRIANGLE))",
  "SMALL(TRIANGLE) TRIANGLE) UPPER(LEFT(TRIANGLE) RIGHT(TRIANGLE))",
  "UPWARDS(EQUILATERAL(ARROWHEAD)) VERTICAL(ELLIPSE RECTANGLE) VERY(SMALL(DIAMOND LOZENGE",
  "SQUARE))) BLACK-FEATHERED(NORTH(EAST(ARROW)) RIGHTWARDS(ARROW) SOUTH(EAST(ARROW)))",
  "BLACK-LETTER(CAPITAL(C H I R Z)) BLANK(SYMBOL) BLOCK(SEXTANT-1 SEXTANT-12 SEXTANT-123",
  "SEXTANT-1234 SEXTANT-12345 SEXTANT-12346 SEXTANT-1235 SEXTANT-12356 SEXTANT-1236 SEXTANT-124",
  "SEXTANT-1245 SEXTANT-12456 SEXTANT-1246 SEXTANT-125 SEXTANT-1256 SEXTANT-126 SEXTANT-13",
  "SEXTANT-134 SEXTANT-1345 SEXTANT-13456 SEXTANT-1346 SEXTANT-1356 SEXTANT-136 SEXTANT-14",
  "SEXTANT-145 SEXTANT-1456 SEXTANT-146 SEXTANT-15 SEXTANT-156 SEXTANT-16 SEXTANT-2 SEXTANT-23",
  "SEXTANT-234 SEXTANT-2345 SEXTANT-23456 SEXTANT-2346 SEXTANT-235 SEXTANT-2356 SEXTANT-236",
  "SEXTANT-24 SEXTANT-245 SEXTANT-2456 SEXTANT-25 SEXTANT-256 SEXTANT-26 SEXTANT-3 SEXTANT-34",
  "SEXTANT-345 SEXTANT-3456 SEXTANT-346 SEXTANT-35 SEXTANT-356 SEXTANT-36 SEXTANT-4 SEXTANT-45",
  "SEXTANT-456 SEXTANT-46 SEXTANT-5 SEXTANT-56 SEXTANT-6) BLOSSOM BLOWFISH BLUE(BOOK HEART)",
  "BLUEBERRIES BOAR BOLD(EIGHT(SPOKED(ASTERISK)) FIVE(SPOKED(ASTERISK)) GREEK(CROSS) SALTIRE",
  "SIX(SPOKED(ASTERISK)) WHITE(CIRCLE SQUARE)) BOM BOMB BONE BOOK BOOKMARK(* TABS) BOOKS",
  "BOOMERANG BOPOMOFO(FINAL(LETTER(G H K P T)) LETTER(A AH AI AINN AM AN ANG ANN AU AUNN B BU C",
  "CH D E EE EH EI EN ENG ENN ER F G GH GN GU GW H I IH IM INN INNN IR IU J JI K KW L LH M N NG",
  "NGG NN O(* WITH(DOT(ABOVE))) OE OM ONG ONN OO OU P Q R S SH T U UNN V X Z ZH ZI ZY))",
  "BOTTLE(WITH(POPPING(CORK))) BOTTOM(ARC(ANTICLOCKWISE(ARROW)) CURLY(BRACKET)",
  "HALF(BLACK(CIRCLE) INTEGRAL LEFT(PARENTHESIS) RIGHT(PARENTHESIS)) LEFT(CORNER CROP",
  "HALF(BRACKET)) PARENTHESIS RIGHT(CORNER CROP HALF(BRACKET)) SQUARE(BRACKET(*",
  "OVER(TOP(SQUARE(BRACKET))))) TORTOISE(SHELL(BRACKET))) BOUQUET(* OF(FLOWERS)) BOW(AND(ARROW))",
  "BOWL(OF(HYGIEIA) WITH(SPOON)) BOWLING BOWTIE(* WITH(LEFT(HALF(BLACK)) RIGHT(HALF(BLACK))))",
  "BOX(DRAWINGS(DOUBLE(DOWN(AND(HORIZONTAL LEFT RIGHT)) HORIZONTAL UP(AND(HORIZONTAL LEFT",
  "RIGHT)) VERTICAL(* AND(HORIZONTAL LEFT RIGHT))) DOWN(DOUBLE(AND(HORIZONTAL(SINGLE)",
  "LEFT(SINGLE) RIGHT(SINGLE))) HEAVY(AND(HORIZONTAL(LIGHT) LEFT(LIGHT UP(LIGHT)) RIGHT(LIGHT",
  "UP(LIGHT)) UP(HORIZONTAL(LIGHT)))) LIGHT(AND(HORIZONTAL(HEAVY) LEFT(HEAVY UP(HEAVY))",
  "RIGHT(HEAVY UP(HEAVY)) UP(HORIZONTAL(HEAVY)))) SINGLE(AND(HORIZONTAL(DOUBLE) LEFT(DOUBLE)",
  "RIGHT(DOUBLE)))) HEAVY(DOUBLE(DASH(HORIZONTAL VERTICAL)) DOWN(* AND(HORIZONTAL LEFT RIGHT))",
  "HORIZONTAL LEFT(* AND(LIGHT(RIGHT))) QUADRUPLE(DASH(HORIZONTAL VERTICAL)) RIGHT",
  "TRIPLE(DASH(HORIZONTAL VERTICAL)) UP(* AND(HORIZONTAL LEFT LIGHT(DOWN) RIGHT)) VERTICAL(*",
  "AND(HORIZONTAL LEFT RIGHT))) LEFT(DOWN(HEAVY(AND(RIGHT(UP(LIGHT)))))",
  "HEAVY(AND(RIGHT(DOWN(LIGHT) UP(LIGHT) VERTICAL(LIGHT)))) LIGHT(AND(RIGHT(DOWN(HEAVY)",
  "UP(HEAVY) VERTICAL(HEAVY)))) UP(HEAVY(AND(RIGHT(DOWN(LIGHT)))))) LIGHT(ARC(DOWN(AND(LEFT",
  "RIGHT)) UP(AND(LEFT RIGHT))) DIAGONAL(CROSS DIAMOND MIDDLE(LEFT(TO(LOWER(CENTRE(*",
  "TO(MIDDLE(RIGHT)))) UPPER(CENTRE(TO(MIDDLE(RIGHT(* TO(LOWER(CENTRE)))))))))",
  "RIGHT(TO(LOWER(CENTRE) UPPER(CENTRE(TO(MIDDLE(LEFT(TO(LOWER(CENTRE))))))))))",
  "UPPER(CENTRE(TO(MIDDLE(LEFT(* AND(MIDDLE(RIGHT(TO(LOWER(CENTRE))))) TO(LOWER(CENTRE(*",
  "TO(MIDDLE(RIGHT)))))) RIGHT(* AND(MIDDLE(LEFT(TO(LOWER(CENTRE))))) TO(LOWER(CENTRE(*",
  "TO(MIDDLE(LEFT))))))))) LEFT(TO(LOWER(RIGHT))) RIGHT(TO(LOWER(LEFT)))))",
  "DOUBLE(DASH(HORIZONTAL VERTICAL)) DOWN(* AND(HORIZONTAL LEFT RIGHT)) HORIZONTAL(*",
  "WITH(VERTICAL(STROKE))) LEFT(* AND(HEAVY(RIGHT))) QUADRUPLE(DASH(HORIZONTAL VERTICAL)) RIGHT",
  "TRIPLE(DASH(HORIZONTAL VERTICAL)) UP(* AND(HEAVY(DOWN) HORIZONTAL LEFT RIGHT)) VERTICAL(*",
  "AND(HORIZONTAL LEFT RIGHT))) RIGHT(DOWN(HEAVY(AND(LEFT(UP(LIGHT)))))",
  "HEAVY(AND(LEFT(DOWN(LIGHT) UP(LIGHT) VERTICAL(LIGHT)))) LIGHT(AND(LEFT(DOWN(HEAVY) UP(HEAVY)",
  "VERTICAL(HEAVY)))) UP(HEAVY(AND(LEFT(DOWN(LIGHT)))))) UP(DOUBLE(AND(HORIZONTAL(SINGLE)",
  "LEFT(SINGLE) RIGHT(SINGLE))) HEAVY(AND(DOWN(HORIZONTAL(LIGHT)) HORIZONTAL(LIGHT)",
  "LEFT(DOWN(LIGHT) LIGHT) RIGHT(DOWN(LIGHT) LIGHT))) LIGHT(AND(DOWN(HORIZONTAL(HEAVY))",
  "HORIZONTAL(HEAVY) LEFT(DOWN(HEAVY) HEAVY) RIGHT(DOWN(HEAVY) HEAVY)))",
  "SINGLE(AND(HORIZONTAL(DOUBLE) LEFT(DOUBLE) RIGHT(DOUBLE))))",
  "VERTICAL(DOUBLE(AND(HORIZONTAL(SINGLE) LEFT(SINGLE) RIGHT(SINGLE)))",
  "HEAVY(AND(HORIZONTAL(LIGHT) LEFT(LIGHT) RIGHT(LIGHT))) LIGHT(AND(HORIZONTAL(HEAVY)",
  "LEFT(HEAVY) RIGHT(HEAVY))) SINGLE(AND(HORIZONTAL(DOUBLE) LEFT(DOUBLE) RIGHT(DOUBLE))))))",
  "BOXING(GLOVE) BOY BOYS(SYMBOL) BPH BRAHMI(DANDA DIGIT(EIGHT FIVE FOUR NINE ONE SEVEN SIX",
  "THREE TWO ZERO) DOUBLE(DANDA) LETTER(A AA AI AU BA BHA CA CHA DA DDA DDHA DHA E GA GHA HA I",
  "II JA JHA KA KHA LA LLA MA NA NGA NNA NYA O OLD(TAMIL(LLA LLLA NNNA RRA SHORT(E O))) PA PHA",
  "RA SA SHA SSA TA THA TTA TTHA U UU VA VOCALIC(L LL R RR) YA) NUMBER(EIGHT EIGHTY FIFTY FIVE",
  "FORTY FOUR JOINER NINE NINETY ONE(* HUNDRED THOUSAND) SEVEN SEVENTY SIX SIXTY TEN THIRTY",
  "THREE TWENTY TWO) PUNCTUATION(CRESCENT(BAR) DOT DOUBLE(DOT) LINE LOTUS) SIGN(ANUSVARA",
  "CANDRABINDU JIHVAMULIYA OLD(TAMIL(VIRAMA)) UPADHMANIYA VISARGA) VIRAMA VOWEL(SIGN(AA AI AU",
  "BHATTIPROLU(AA) E I II O OLD(TAMIL(SHORT(E O))) U UU VOCALIC(L LL R RR))))",
  "BRAILLE(PATTERN(BLANK DOTS-1 DOTS-12 DOTS-123 DOTS-1234 DOTS-12345 DOTS-123456 DOTS-1234567",
  "DOTS-12345678 DOTS-1234568 DOTS-123457 DOTS-1234578 DOTS-123458 DOTS-12346 DOTS-123467",
  "DOTS-1234678 DOTS-123468 DOTS-12347 DOTS-123478 DOTS-12348 DOTS-1235 DOTS-12356 DOTS-123567",
  "DOTS-1235678 DOTS-123568 DOTS-12357 DOTS-123578 DOTS-12358 DOTS-1236 DOTS-12367 DOTS-123678",
  "DOTS-12368 DOTS-1237 DOTS-12378 DOTS-1238 DOTS-124 DOTS-1245 DOTS-12456 DOTS-124567",
  "DOTS-1245678 DOTS-124568 DOTS-12457 DOTS-124578 DOTS-12458 DOTS-1246 DOTS-12467 DOTS-124678",
  "DOTS-12468 DOTS-1247 DOTS-12478 DOTS-1248 DOTS-125 DOTS-1256 DOTS-12567 DOTS-125678",
  "DOTS-12568 DOTS-1257 DOTS-12578 DOTS-1258 DOTS-126 DOTS-1267 DOTS-12678 DOTS-1268 DOTS-127",
  "DOTS-1278 DOTS-128 DOTS-13 DOTS-134 DOTS-1345 DOTS-13456 DOTS-134567 DOTS-1345678 DOTS-134568",
  "DOTS-13457 DOTS-134578 DOTS-13458 DOTS-1346 DOTS-13467 DOTS-134678 DOTS-13468 DOTS-1347",
  "DOTS-13478 DOTS-1348 DOTS-135 DOTS-1356 DOTS-13567 DOTS-135678 DOTS-13568 DOTS-1357",
  "DOTS-13578 DOTS-1358 DOTS-136 DOTS-1367 DOTS-13678 DOTS-1368 DOTS-137 DOTS-1378 DOTS-138",
  "DOTS-14 DOTS-145 DOTS-1456 DOTS-14567 DOTS-145678 DOTS-14568 DOTS-1457 DOTS-14578 DOTS-1458",
  "DOTS-146 DOTS-1467 DOTS-14678 DOTS-1468 DOTS-147 DOTS-1478 DOTS-148 DOTS-15 DOTS-156",
  "DOTS-1567 DOTS-15678 DOTS-1568 DOTS-157 DOTS-1578 DOTS-158 DOTS-16 DOTS-167 DOTS-1678",
  "DOTS-168 DOTS-17 DOTS-178 DOTS-18 DOTS-2 DOTS-23 DOTS-234 DOTS-2345 DOTS-23456 DOTS-234567",
  "DOTS-2345678 DOTS-234568 DOTS-23457 DOTS-234578 DOTS-23458 DOTS-2346 DOTS-23467 DOTS-234678",
  "DOTS-23468 DOTS-2347 DOTS-23478 DOTS-2348 DOTS-235 DOTS-2356 DOTS-23567 DOTS-235678",
  "DOTS-23568 DOTS-2357 DOTS-23578 DOTS-2358 DOTS-236 DOTS-2367 DOTS-23678 DOTS-2368 DOTS-237",
  "DOTS-2378 DOTS-238 DOTS-24 DOTS-245 DOTS-2456 DOTS-24567 DOTS-245678 DOTS-24568 DOTS-2457",
  "DOTS-24578 DOTS-2458 DOTS-246 DOTS-2467 DOTS-24678 DOTS-2468 DOTS-247 DOTS-2478 DOTS-248",
  "DOTS-25 DOTS-256 DOTS-2567 DOTS-25678 DOTS-2568 DOTS-257 DOTS-2578 DOTS-258 DOTS-26 DOTS-267",
  "DOTS-2678 DOTS-268 DOTS-27 DOTS-278 DOTS-28 DOTS-3 DOTS-34 DOTS-345 DOTS-3456 DOTS-34567",
  "DOTS-345678 DOTS-34568 DOTS-3457 DOTS-34578 DOTS-3458 DOTS-346 DOTS-3467 DOTS-34678 DOTS-3468",
  "DOTS-347 DOTS-3478 DOTS-348 DOTS-35 DOTS-356 DOTS-3567 DOTS-35678 DOTS-3568 DOTS-357",
  "DOTS-3578 DOTS-358 DOTS-36 DOTS-367 DOTS-3678 DOTS-368 DOTS-37 DOTS-378 DOTS-38 DOTS-4",
  "DOTS-45 DOTS-456 DOTS-4567 DOTS-45678 DOTS-4568 DOTS-457 DOTS-4578 DOTS-458 DOTS-46 DOTS-467",
  "DOTS-4678 DOTS-468 DOTS-47 DOTS-478 DOTS-48 DOTS-5 DOTS-56 DOTS-567 DOTS-5678 DOTS-568",
  "DOTS-57 DOTS-578 DOTS-58 DOTS-6 DOTS-67 DOTS-678 DOTS-68 DOTS-7 DOTS-78 DOTS-8)) BRAIN BREAD",
  "BREAK(PERMITTED(HERE)) BREAST-FEEDING BREVE BRICK BRIDE(WITH(VEIL)) BRIDGE(AT(NIGHT))",
  "BRIEFCASE BRIEFS BROCCOLI BROKEN(BAR CIRCLE(WITH(NORTHWEST(ARROW))) HEART) BROOM BROWN(HEART)",
  "BS BUBBLE(TEA) BUBBLES BUCKET BUG BUGINESE(END(OF(SECTION)) LETTER(A BA CA DA GA HA JA KA LA",
  "MA MPA NA NGA NGKA NRA NYA NYCA PA RA SA TA VA YA) PALLAWA VOWEL(SIGN(AE E I O U)))",
  "BUHID(LETTER(A BA DA GA HA I KA LA MA NA NGA PA RA SA TA U WA YA) VOWEL(SIGN(I U)))",
  "BUILDING(CONSTRUCTION) BULLET(* OPERATOR) BULLHORN(* WITH(SOUND(WAVES))) BULLSEYE BURRITO",
  "BUS(* STOP) BUST(IN(SILHOUETTE)) BUSTS(IN(SILHOUETTE)) BUTTER BUTTERFLY BYTE(ORDER(MARK))",
  "BYZANTINE(MUSICAL(SYMBOL(AGOGI(ARGI ARGOTERI GORGI GORGOTERI MESI METRIA POLI(ARGI GORGI))",
  "ANATRICHISMA ANTIKENOKYLISMA ANTIKENOMA APESO(EKFONITIKON EXO(NEO)) APLI APODERMA(ARCHAION",
  "NEO) APOSTROFOI(SYNDESMOS(NEO) TELOUS(ICHIMATOS)) APOSTROFOS(* DIPLI NEO) APOTHEMA ARGON",
  "ARGOSYNTHETON ARKTIKO(DI GA KE NI PA VOU ZO) CHAMILI CHAMILON CHOREVMA(ARCHAION NEO)",
  "CHROA(KLITON SPATHI ZYGOS) DASEIA DIARGON DIASTOLI(APLI(MEGALI MIKRI) DIPLI THESEOS)",
  "DIESIS(APLI(DYO(DODEKATA)) DIGRAMMOS(EX(DODEKATA)) MONOGRAMMOS(TESSERA(DODEKATA))",
  "TETARTIMORION TRIGRAMMOS(OKTO(DODEKATA)) TRITIMORION) DIFTOGGOS(OU) DIGORGON(*",
  "PARESTIGMENON(ARISTERA(ANO KATO) DEXIA)) DIGRAMMA(GG) DIPLI(* ARCHAION) DYO EKSTREPTON",
  "ELAFRON ENARXIS(KAI(FTHORA(VOU))) ENDOFONON EPEGERMA ETERON(ARGOSYNTHETON PARAKALESMA)",
  "EXO(EKFONITIKON) FANEROSIS(DIFONIAS MONOFONIAS TETRAFONIAS) FHTORA(SKLIRON(CHROMA(VASIS)))",
  "FTHORA(ARCHAION(* DEYTEROU(ICHOU)) DIATONIKI(DI KE NANA NI(ANO KATO) PA ZO)",
  "ENARMONIOS(ANTIFONIA) I(YFESIS(TETARTIMORION)) MALAKON(CHROMA(DIFONIAS MONOFONIAS))",
  "NAOS(ICHOS) NENANO SKLIRON(CHROMA(SYNAFI VASIS) DIATONON(DI))) GENIKI(DIESIS YFESIS)",
  "GORGON(ARCHAION NEO(ANO KATO) PARESTIGMENON(ARISTERA DEXIA)) GORGOSYNTHETON",
  "GORTHMIKON(N(APLOUN DIPLOUN)) GRONTHISMATA ICHADIN IMIDIARGON IMIFONON IMIFTHORA IMIFTHORON",
  "ISAKIA(TELOUS(ICHIMATOS)) ISON(ARCHAION NEO) KATAVA(TROMIKON) KATAVASMA KATHISTI",
  "KENTIMA(ARCHAION NEO(ANO KATO MESO)) KENTIMATA(* ARCHAION NEO(ANO KATO MESO)) KLASMA(* ANO",
  "KATO) KONTEVMA(* ALLO) KORONIS KOUFISMA KRATIMA(ALLO ARCHAION NEO) KRATIMATA KRATIMOKOUFISMA",
  "KRATIMOYPORROON KREMASTI KYLISMA LEIMMA(DYO(CHRONON) ENOS(CHRONOU) IMISEOS(CHRONOU)",
  "TESSARON(CHRONON) TRION(CHRONON)) LEMOI LYGISMA MARTYRIA(ALLI(DEYTEROS(ICHOS) PROTOS(ICHOS))",
  "DEYTEROS(ICHOS) LEGETOS(ICHOS) PLAGIOS(ICHOS TETARTOS(ICHOS)) PROTOS(ICHOS) PROTOVARYS(ICHOS)",
  "TETARTOS(ICHOS LEGETOS(ICHOS)) TRIFONIAS TRITOS(ICHOS) VARYS(ICHOS)) MIKRON(ISON) NANA",
  "OLIGON(ARCHAION NEO) OMALON OXEIA(DIPLI EKFONITIKON NEO) OXEIAI(ARCHAION) OYRANISMA(ARCHAION",
  "NEO) PARAKALESMA(ARCHAION NEO) PARAKLITIKI(* ARCHAION NEO) PARICHON PELASTON(* NEO)",
  "PERISPOMENI PETASMA PETASTI PETASTOKOUFISMA PIASMA(ARCHAION NEO) PSIFISTOLYGISMA PSIFISTON(*",
  "NEO) PSIFISTOPARAKALESMA PSIFISTOSYNAGMA PSILI PSILON RAPISMA REVMA SAXIMATA SEISMA(* NEO)",
  "SIMANSIS(ARSEOS(* DISIMOU TETRASIMOU TRISIMOU) THESEOS(* DISIMOU TETRASIMOU TRISIMOU))",
  "STAVROS(* APODEXIA) STIGMA STRAGGISMATA SYNAGMA(ARCHAION META(STAVROU) NEO) SYNEVMA SYRMA",
  "SYRMATIKI TELEIA TESSERA TETRAPLI THEMA(* APLOUN) THEMATISMOS(ESO EXO) THES(KAI(APOTHES))",
  "THITA TINAGMA TRIA TRIGORGON TRIPLI TROMIKOLYGISMA TROMIKON(ALLO ARCHAION NEO)",
  "TROMIKOPARAKALESMA TROMIKOPSIFISTON TROMIKOSYNAGMA VAREIA(DIPLI EKFONITIKON NEO)",
  "VAREIAI(ARCHAION) VATHY XIRON(KLASMA) YFEN(ANO KATO) YFESIS(APLI(DYO(DODEKATA))",
  "DIGRAMMOS(EX(DODEKATA)) MONOGRAMMOS(TESSERA(DODEKATA)) TRIGRAMMOS(OKTO(DODEKATA))",
  "TRITIMORION) YPOKRISIS(* DIPLI) YPORROI YPSILI)))"]

/-- The names that start with C. -/
def characterNamesC : List String := [
  "CACTUS CADA(UNA) CADUCEUS CALENDAR CALL(ME(HAND)) CAMERA(* WITH(FLASH)) CAMPING CAN",
  "CANADIAN(SYLLABICS(A AA AAI AAY AI AIVILIK(B) AN ATHAPASCAN(M S) AY BEAVER(DENE(L R))",
  "BIBLE-CREE(Y) BLACKFOOT(A E I KA KE KI KO NA NE NI NO O S W WA WE WI WO) C CA CAA CAAI",
  "CARRIER(CHA CHE CHEE CHI CHO CHU DEE DENE(GEE) DENTAL(S) DI DLA DLE DLEE DLI DLO DLU DZA DZE",
  "DZEE DZI DZO DZU EE GA GAA GE GEE GHA GHE GHEE GHI GHO GHU GI GO GU GWA GWU H HEE HI HWA HWE",
  "HWEE HWI HWO HWU I INITIAL(Z) JA JE JEE JI JJA JJE JJEE JJI JJO JJU JO JU JWA KHA KHE KHEE",
  "KHI KHO KHU KK KKA KKE KKEE KKI KKO KKU LA LE LEE LHA LHE LHEE LHI LHO LHU LI LO LU MA ME MEE",
  "MI MO MU NA NE NEE NG NI NO NU P PA PE PEE PI PO PU RA RE REE RI RO RU SA SE SEE SH SHA SHE",
  "SHEE SHI SHO SHU SI SO SU THA THE THEE THI THO THU TLA TLE TLEE TLHA TLHE TLHEE TLHI TLHO",
  "TLHU TLI TLO TLU TSA TSE TSEE TSI TSO TSU TTA TTE TTEE TTI TTO TTSA TTSE TTSEE TTSI TTSO TTSU",
  "TTU WA WE WEE WI WO WU YA YE YEE YI YO YU Z ZA ZE ZEE ZI ZO ZU) CE CHI(SIGN) CI CII CO COO",
  "CWA CWAA CWE CWI CWII CWO CWOO E EASTERN(W) EN F FA FAA FAAI FE FI FII FINAL(ACUTE",
  "BOTTOM(HALF(RING)) DOUBLE(ACUTE SHORT(VERTICAL(STROKES))) DOWN(TACK) GRAVE MIDDLE(DOT) PLUS",
  "RAISED(DOT) RIGHT(HALF(RING)) RING SHORT(HORIZONTAL(STROKE)) SMALL(RING) TOP(HALF(RING))) FO",
  "FOO FULL(STOP) FWAA GLOTTAL(STOP) HK HYPHEN I II IN K KA KAA KAAI KAY KE KI KII KO KOO KW KWA",
  "KWAA KWAY KWE KWI KWII KWO KWOO L LA LAA LAAI LAY LE LH LHA LHAA LHI LHII LHO LHOO LI LII LO",
  "LOO LWA LWAA LWE LWI LWII LWO LWOO M MA MAA MAAI MAY ME MEDIAL(L R) MH MI MII MO MOO",
  "MOOSE-CREE(SK) MWA MWAA MWE MWI MWII MWO MWOO N N-CREE(THE THI THII) NA NAA NAAI NASKAPI(CWAA",
  "KWAA MWAA NWAA S-W SCWA SKW SKWA SPWA STWA SWAA TWAA WAA WOO YWAA) NATTILIK(HA HAA HI HII HO",
  "HOO SHRA SHRAA SHRI SHRII SHRO SHROO) NAY NE NG NGA NGAA NGAAI NGAI NGI NGII NGO NGOO NH NI",
  "NII NNG NNGA NNGAA NNGI NNGII NNGO NNGOO NO NOO NOY NUNAVIK(H HA HAA HE HI HII HO HOO)",
  "NUNAVUT(H) NWA NWAA NWE NWI NWII NWO NWOO O OJIBWAY(C K M N NWI NWII NWO NWOO P S SH T) ON OO",
  "OY P PA PAA PAAI PAY PE PI PII PO POO POY PWA PWAA PWE PWI PWII PWO PWOO PWOY Q QA QAA QAAI",
  "QAI QI QII QO QOO R R-CREE(RE RWE) RA RAA RAAI RAY RE RI RII RO ROO RWA RWAA RWEE RWI RWII",
  "RWO RWOO S SA SAA SAAI SAY SAYISI(HA HE HI HO HOO JI JU JUU M SHA SHE SHI SHO SHOO SHWE TH",
  "YI) SE SH SHA SHAA SHAY SHE SHI SHII SHO SHOO SHOY SHWA SHWAA SHWE SHWI SHWII SHWO SHWOO",
  "SHWOY SI SII SO SOO SOUTH-SLAVEY(KAH KEH KIH KOH) SOY SPA SPE SPI SPO SW SWA SWAA SWE SWI",
  "SWII SWO SWOO T TA TAA TAAI TAY TE TH TH-CREE(TH THA THAA THE THI THII THO THOO) THA THAA THE",
  "THI THII THO THOO THWA THWAA THWE TI TII TLHA TLHE TLHI TLHO TLHOO TLHWE TO TOO TTA TTE TTH",
  "TTHA TTHAA TTHE TTHI TTHO TTHOO TTHWE TTI TTO TWA TWAA TWE TWI TWII TWO TWOO TYA TYE TYI TYO",
  "WA WAA WAY WE WEST-CREE(CWA CWAA CWE CWI CWII CWO CWOO FWAA KWA KWAA KWE KWI KWII KWO KWOO L",
  "LA LAA LE LO LOO LWA LWAA LWE LWI LWII LWO LWOO M MWA MWAA MWE MWI MWII MWO MWOO NWA NWAA NWE",
  "P PWA PWAA PWE PWI PWII PWO PWOO R RA RE RI RO RWAA SHWA SHWAA SHWE SHWI SHWII SHWO SHWOO SWA",
  "SWAA SWE SWI SWII SWO SWOO THWAA TWA TWAA TWE TWI TWII TWO TWOO WA WAA WE WI WII WO WOO Y YWA",
  "YWAA YWE YWI YWII YWO YWOO) WESTERN(W) WI WII WO WOO WOODS-CREE(FINAL(TH) TH THA THE THI THO",
  "THWA THWAA THWEE THWI THWII THWO THWOO) Y Y-CREE(COO KOO LOO MOO NOO OO POO PWAA SOO TOO W",
  "YOO) YA YAA YAAI YAY YE YI YII YO YOO YOY YWA YWAA YWE YWI YWII YWO YWOO)) CANCEL(* CHARACTER",
  "TAG) CANCELLATION(X) CANCER CANDLE CANDY CANNED(FOOD) CANOE CAPITULUM CAPRICORN CAR(SLIDING)",
  "CARD(FILE(BOX) INDEX(* DIVIDERS)) CARE(OF) CARET(* INSERTION(POINT)) CARIAN(LETTER(A A2 B",
  "C-18 C-39 D D2 E E2 G G2 I II K K2 L LD LD2 M MB MB2 MB3 MB4 N ND NG NN O P P2 Q R RR S SH",
  "SH2 SS ST ST2 T TT TT2 U UU UUU UUU2 UUU3 UUUU X)) CARON CAROUSEL(HORSE) CARP(STREAMER)",
  "CARPENTRY(SAW) CARRIAGE(RETURN) CARROT CASTLE CAT(* FACE(* WITH(TEARS(OF(JOY)) WRY(SMILE))))",
  "CAUCASIAN(ALBANIAN(CITATION(MARK) LETTER(ALT AOR BET CAR CAYN CHA CHAT CHI CHOY CYAW CYAY DAT",
  "DYAN DZAY DZYAY EB EYN FAM GHEYS GIM HEYT INYA IRB IWN JAYN JHOX KAR KIW LAN LYIT MAQ NOWC ON",
  "PEN PIWR QAR QAY RAT SEYK SHA SHAK SHOY TAS TIWR TYAY VEYZ XEYN YAYD YOWD ZARL ZHA ZHIL)))",
  "CAUTION(SIGN) CCH CEDI(SIGN) CEDILLA CELTIC(CROSS) CENT(SIGN) CENTRE(LINE(SYMBOL))",
  "CENTRELINE(LOW(LINE) OVERLINE) CERES CGJ CHAINS CHAIR CHAKMA(AU(MARK) DANDA DIGIT(EIGHT FIVE",
  "FOUR NINE ONE SEVEN SIX THREE TWO ZERO) DOUBLE(DANDA) LETTER(AA BAA BHAA CAA CHAA DAA DDAA",
  "DDHAA DHAA E GAA GHAA HAA I JAA JHAA KAA KHAA LAA LHAA MAA NAA NGAA NNAA NYAA PAA PHAA RAA",
  "SAA TAA THAA TTAA TTHAA U VAA WAA YAA YYAA) MAAYYAA O(MARK) QUESTION(MARK) SECTION(MARK)",
  "SIGN(ANUSVARA CANDRABINDU VISARGA) VIRAMA VOWEL(SIGN(A AA AI AU E EI I II O OI U UU)))",
  "CHAM(CONSONANT(SIGN(FINAL(H M NG) LA RA WA YA)) DIGIT(EIGHT FIVE FOUR NINE ONE SEVEN SIX",
  "THREE TWO ZERO) LETTER(A AI BA BBA BHA CHA CHHA DA DDA DHA E FINAL(CH G K L N NG P R SS T Y)",
  "GA GHA HA I JA JHA KA KHA LA MA MUE NA NGA NGUE NHA NHJA NHUE NUE O PA PHA PPA RA SA SSA TA",
  "THA U VA YA) PUNCTUATION(DANDA DOUBLE(DANDA) SPIRAL TRIPLE(DANDA)) VOWEL(SIGN(AA AI AU EI I",
  "II O OE U UE))) CHARACTER(TABULATION(* SET WITH(JUSTIFICATION)) TIE)",
  "CHART(WITH(DOWNWARDS(TREND) UPWARDS(TREND(* AND(YEN(SIGN)))))) CHECK(MARK) CHECKER(BOARD(*",
  "FILL)) CHEERING(MEGAPHONE) CHEESE(WEDGE) CHEQUERED(FLAG) CHEROKEE(LETTER(A DA DE DI DLA DO DU",
  "DV E GA GE GI GO GU GV HA HE HI HNA HO HU HV I KA LA LE LI LO LU LV MA ME MI MO MU MV NA NAH",
  "NE NI NO NU NV O QUA QUE QUI QUO QUU QUV S SA SE SI SO SU SV TA TE TI TLA TLE TLI TLO TLU TLV",
  "TSA TSE TSI TSO TSU TSV U V WA WE WI WO WU WV YA YE YI YO YU YV) SMALL(LETTER(A DA DE DI DLA",
  "DO DU DV E GA GE GI GO GU GV HA HE HI HNA HO HU HV I KA LA LE LI LO LU LV MA ME MI MO MU MV",
  "NA NAH NE NI NO NU NV O QUA QUE QUI QUO QUU QUV S SA SE SI SO SU SV TA TE TI TLA TLE TLI TLO",
  "TLU TLV TSA TSE TSI TSO TSU TSV U V WA WE WI WO WU WV YA YE YI YO YU YV))) CHERRIES",
  "CHERRY(BLOSSOM) CHESTNUT CHI(RHO) CHICKEN CHILD CHILDREN(CROSSING) CHIPMUNK CHIRON",
  "CHOCOLATE(BAR) CHOPSTICKS CHORASMIAN(LETTER(ALEPH AYIN BETH CURLED(WAW) DALETH GIMEL HE HETH",
  "KAPH LAMEDH MEM NUN PE RESH SAMEKH SHIN SMALL(ALEPH) TAW WAW YODH ZAYIN) NUMBER(FOUR ONE(*",
  "HUNDRED) TEN THREE TWENTY TWO)) CHRISTMAS(TREE) CHURCH CINEMA",
  "CIRCLE(DIVIDED(BY(HORIZONTAL(BAR(AND(TOP(HALF(DIVIDED(BY(VERTICAL(BAR))))))))))",
  "WITH(ALL(BUT(UPPER(LEFT(QUADRANT(BLACK))))) HORIZONTAL(BAR) LEFT(HALF(BLACK))",
  "LOWER(HALF(BLACK)) RIGHT(HALF(BLACK)) SMALL(CIRCLE(TO(THE(RIGHT)))) SUPERIMPOSED(X)",
  "TWO(HORIZONTAL(STROKES(TO(THE(RIGHT))))) UPPER(HALF(BLACK) RIGHT(QUADRANT(BLACK)))",
  "VERTICAL(FILL))) CIRCLED(ANTICLOCKWISE(ARROW) ANTICLOCKWISE-ROTATED(DIVISION(SIGN))",
  "ASTERISK(OPERATOR) BOLD(X) BULLET C(WITH(OVERLAID(BACKSLASH))) CC CD CROSS(FORMEE(*",
  "WITH(FOUR(DOTS) TWO(DOTS))) POMMEE) CROSSING(LANES) DASH DIGIT(EIGHT FIVE FOUR NINE ONE SEVEN",
  "SIX THREE TWO ZERO) DIVISION(SIGN SLASH) DOLLAR(SIGN(WITH(OVERLAID(BACKSLASH))))",
  "DOT(OPERATOR) EQUALS GREATER-THAN HANGUL(CHIEUCH(* A) CIEUC(* A) HIEUH(* A) IEUNG(* A U)",
  "KHIEUKH(* A) KIYEOK(* A) MIEUM(* A) NIEUN(* A) PHIEUPH(* A) PIEUP(* A) RIEUL(* A) SIOS(* A)",
  "THIEUTH(* A) TIKEUT(* A)) HEAVY(WHITE(RIGHTWARDS(ARROW))) HORIZONTAL(BAR(WITH(NOTCH)))",
  "HUMAN(FIGURE) IDEOGRAPH(ACCEPT ADVANTAGE ALLIANCE ATTENTION CENTRE CONGRATULATION COPY",
  "CORRECT EARTH EIGHT ENTERPRISE EXCELLENT FEMALE FINANCIAL FIRE FIVE FOUR HAVE HIGH ITEM",
  "KINDERGARTEN KOTO LABOR LEFT LOW MALE MEDICINE METAL MOON NAME NIGHT NINE ONE PRINT QUESTION",
  "RELIGION RESOURCE REST RIGHT SCHOOL SECRET SEVEN SIX SOCIETY SPECIAL STOCK STUDY SUITABLE SUN",
  "SUPERVISE TEN THREE TWO WATER WOOD) INFORMATION(SOURCE) ITALIC(LATIN(CAPITAL(LETTER(C R))))",
  "KATAKANA(A E HA HE HI HO HU I KA KE KI KO KU MA ME MI MO MU NA NE NI NO NU O RA RE RI RO RU",
  "SA SE SI SO SU TA TE TI TO TU U WA WE WI WO YA YO YU) KOREAN(CHARACTER(CHAMKO JUEUI))",
  "LATIN(CAPITAL(LETTER(A B C D E F G H I J K L M N O P Q R S T U V W X Y Z)) SMALL(LETTER(A B C",
  "D E F G H I J K L M N O P Q R S T U V W X Y Z))) LESS-THAN MINUS",
  "MULTIPLICATION(SIGN(WITH(CIRCUMFLEX(ACCENT)))) NUMBER(EIGHTEEN EIGHTY(ON(BLACK(SQUARE)))",
  "ELEVEN FIFTEEN FIFTY(* ON(BLACK(SQUARE))) FORTY(* EIGHT FIVE FOUR NINE ON(BLACK(SQUARE)) ONE",
  "SEVEN SIX THREE TWO) FOURTEEN NINETEEN SEVENTEEN SEVENTY(ON(BLACK(SQUARE))) SIXTEEN",
  "SIXTY(ON(BLACK(SQUARE))) TEN(* ON(BLACK(SQUARE))) THIRTEEN THIRTY(* EIGHT FIVE FOUR NINE",
  "ON(BLACK(SQUARE)) ONE SEVEN SIX THREE TWO) TWELVE TWENTY(* EIGHT FIVE FOUR NINE",
  "ON(BLACK(SQUARE)) ONE SEVEN SIX THREE TWO)) OPEN(CENTRE(EIGHT(POINTED(STAR)))) PARALLEL",
  "PERPENDICULAR PLUS POSTAL(MARK) REVERSE(SOLIDUS) RING(OPERATOR) SQUARE TIMES TRIANGLE(* DOWN)",
  "VERTICAL(BAR) WHITE(BULLET STAR) WZ X ZERO(WITH(SLASH))) CIRCULATION(FUNCTION)",
  "CIRCUMFLEX(ACCENT) CIRCUS(TENT) CITYSCAPE(* AT(DUSK)) CJK(RADICAL(BAMBOO BLUE BOLT(OF(CLOTH))",
  "BONE BOX BRUSH(ONE TWO) C-SIMPLIFIED(BIRD CART DRAGON EAT EVEN FISH FLY FROG GATE GOLD HORSE",
  "LEAF LONG SALT SEE SHELL SILK SPEECH TANNED(LEATHER) TOOTH TURTLE WIND) CHOKE CITY CIVILIAN",
  "CLIFF CLOTHES COW DEATH DIVINATION DOG EAT(ONE THREE TWO) EWE EYE FIRE FOOT GHOST GRASS(ONE",
  "THREE TWO) HAND HEAD HEART(ONE TWO) HORN J-SIMPLIFIED(DRAGON EVEN TOOTH TURTLE) JADE",
  "KNIFE(ONE TWO) LAME(FOUR ONE THREE TWO) LONG(ONE TWO) MEAT MESH MOON MORTAR MOTHER MOUND(ONE",
  "TWO) NET(FOUR ONE THREE TWO) OLD PAW(ONE TWO) PERSON RAIN RAM RAP REPEAT SEAL SECOND(ONE",
  "THREE TWO) SHEEP SILK SIMPLIFIED(HALF(TREE(TRUNK)) HORN WALK WHEAT YELLOW) SMALL(ONE TWO)",
  "SNAKE SNOUT(ONE TWO) SPIRIT(ONE TWO) SUN TABLE THREAD TIGER TURTLE WALK(ONE TWO) WATER(ONE",
  "TWO) WEST(ONE TWO)) STROKE(BXG D H HG HP HPWG HXWG HZ HZG HZT HZW HZWG HZZ HZZP HZZZ HZZZG N",
  "P PD PG PZ Q S SG SP ST SW SWG SWZ SZ SZWG SZZ T TN WG XG)) CLAMSHELL(MOBILE(PHONE))",
  "CLAPPER(BOARD) CLAPPING(HANDS(SIGN)) CLASSICAL(BUILDING) CLEAR(SCREEN(SYMBOL))",
  "CLINKING(BEER(MUGS) GLASSES) CLIPBOARD CLOCK(FACE(EIGHT(OCLOCK) EIGHT-THIRTY ELEVEN(OCLOCK)",
  "ELEVEN-THIRTY FIVE(OCLOCK) FIVE-THIRTY FOUR(OCLOCK) FOUR-THIRTY NINE(OCLOCK) NINE-THIRTY",
  "ONE(OCLOCK) ONE-THIRTY SEVEN(OCLOCK) SEVEN-THIRTY SIX(OCLOCK) SIX-THIRTY TEN(OCLOCK)",
  "TEN-THIRTY THREE(OCLOCK) THREE-THIRTY TWELVE(OCLOCK) TWELVE-THIRTY TWO(OCLOCK) TWO-THIRTY))",
  "CLOCKWISE(CLOSED(CIRCLE(ARROW)) CONTOUR(INTEGRAL)",
  "DOWNWARDS(AND(UPWARDS(OPEN(CIRCLE(ARROWS))))) GAPPED(CIRCLE(ARROW)) INTEGRAL",
  "OPEN(CIRCLE(ARROW)) RIGHT(AND(LEFT(SEMICIRCLE(ARROWS))))",
  "RIGHTWARDS(AND(LEFTWARDS(OPEN(CIRCLE(ARROWS(* WITH(CIRCLED(ONE(OVERLAY)))))))))",
  "TOP(SEMICIRCLE(ARROW)) TRIANGLE-HEADED(OPEN(CIRCLE(ARROW)))) CLOSE(UP) CLOSED(BOOK",
  "INTERSECTION(WITH(SERIFS)) LOCK(WITH(KEY)) MAILBOX(WITH(LOWERED(FLAG) RAISED(FLAG))) SUBSET(*",
  "OR(EQUAL(TO))) SUPERSET(* OR(EQUAL(TO))) UMBRELLA UNION(WITH(SERIFS(* AND(SMASH(PRODUCT))))))",
  "CLOUD(* WITH(LIGHTNING RAIN SNOW TORNADO)) CLOWN(FACE) COAT COCKROACH COCKTAIL(GLASS) COCONUT",
  "COFFIN COIN COLLISION(SYMBOL) COLON(* EQUALS SIGN) COMBINING(ACUTE(ACCENT(* BELOW)",
  "TONE(MARK)) ACUTE-GRAVE-ACUTE ACUTE-MACRON ALMOST(EQUAL(TO(ABOVE BELOW))) ANNUITY(SYMBOL)",
  "ANTICLOCKWISE(ARROW(ABOVE) RING(OVERLAY)) ASTERISK(ABOVE BELOW) BINDU(BELOW) BREVE(* BELOW)",
  "BREVE-MACRON BRIDGE(ABOVE BELOW) CANDRABINDU CARON(* BELOW) CEDILLA CIRCUMFLEX(ACCENT(*",
  "BELOW)) CLOCKWISE(ARROW(ABOVE) RING(OVERLAY)) COMMA(ABOVE(* RIGHT) BELOW) CONJOINING(MACRON(*",
  "BELOW)) CYRILLIC(DASIA(PNEUMATA) HUNDRED(MILLIONS(SIGN) THOUSANDS(SIGN)) KAVYKA LETTER(A BE",
  "BIG(YUS) CHE DE DJERV EF EL EM EN ER ES ES-TE FITA GHE HA HARD(SIGN) I IE IOTIFIED(A BIG(YUS)",
  "E) KA LITTLE(YUS) MONOGRAPH(UK) O OMEGA PE SHA SHCHA SOFT(SIGN) TE TSE U UKRAINIAN(IE) VE YAT",
  "YERU YI YU ZE ZHE) MILLIONS(SIGN) PALATALIZATION PAYEROK POKRYTIE PSILI(PNEUMATA)",
  "TEN(MILLIONS(SIGN)) THOUSAND(MILLIONS(SIGN)) TITLO(* LEFT(HALF) RIGHT(HALF)) VZMET)",
  "DELETION(MARK) DEVANAGARI(DIGIT(EIGHT FIVE FOUR NINE ONE SEVEN SIX THREE TWO ZERO) LETTER(A",
  "KA NA PA RA U VI) SIGN(AVAGRAHA)) DIAERESIS(* BELOW) DIAERESIS-RING DOT(ABOVE(* LEFT RIGHT)",
  "BELOW(* LEFT)) DOTTED(ACUTE(ACCENT) GRAVE(ACCENT)) DOUBLE(ACUTE(ACCENT) BREVE(* BELOW)",
  "CIRCUMFLEX(ABOVE) GRAVE(ACCENT) INVERTED(BREVE(* BELOW)) LOW(LINE) MACRON(* BELOW)",
  "OPEN(MARK(BELOW)) OVERLINE PARENTHESES(ABOVE) PLUS(SIGN(ABOVE BELOW))",
  "RIGHTWARDS(ARROW(BELOW)) RING(BELOW) TILDE(* LEFT(HALF) RIGHT(HALF)) VERTICAL(LINE(ABOVE",
  "BELOW) STROKE(OVERLAY))) DOUBLED(CIRCUMFLEX(ACCENT)) DOWN(TACK(BELOW)) DOWNWARDS(ARROW)",
  "ENCLOSING(CIRCLE(* BACKSLASH) DIAMOND KEYCAP SCREEN SQUARE UPWARD(POINTING(TRIANGLE)))",
  "EQUALS(SIGN(BELOW)) FERMATA FOUR(DOTS(ABOVE)) GLAGOLITIC(LETTER(AZU BIG(YUS) BUKY CHRIVI",
  "DJERVI DOBRO FITA FRITU GLAGOLI HERU I INITIAL(IZHE) IOTATED(BIG(YUS) SMALL(YUS)) IZHE KAKO",
  "LJUDIJE MYSLITE NASHI ONU POKOJI RITSI SHA SHTA SLOVO SMALL(YUS) TSI TVRIDO UKU VEDE YATI",
  "YERI YERU YESTU YO YU ZEMLJA ZHIVETE)) GRANTHA(DIGIT(FIVE FOUR ONE SIX THREE TWO ZERO)",
  "LETTER(A KA NA PA VI)) GRAPHEME(JOINER) GRAVE(ACCENT(* BELOW) TONE(MARK)) GRAVE-ACUTE-GRAVE",
  "GRAVE-MACRON GREEK(DIALYTIKA(TONOS) KORONIS MUSICAL(PENTASEME TETRASEME TRISEME) PERISPOMENI",
  "YPOGEGRAMMENI) HOMOTHETIC(ABOVE) HOOK(ABOVE) HORN INFINITY INVERTED(BREVE(* BELOW)",
  "BRIDGE(BELOW) DOUBLE(ARCH(ABOVE BELOW))) IS(BELOW) KATAKANA-HIRAGANA(SEMI-VOICED(SOUND(MARK))",
  "VOICED(SOUND(MARK))) KAVYKA(ABOVE(LEFT RIGHT)) LATIN(LETTER(SMALL(CAPITAL(G L M N R)))",
  "SMALL(LETTER(A(* WITH(DIAERESIS)) AE ALPHA AO AV B BETA C(* CEDILLA) D E ESH ETH F",
  "FLATTENED(OPEN(A(ABOVE))) G H I INSULAR(D G R T) K L(* WITH(DOUBLE(MIDDLE(TILDE)))) LONG(S) M",
  "N O(* WITH(DIAERESIS LIGHT(CENTRALIZATION(STROKE)))) P R(* BELOW ROTUNDA) S SCHWA T",
  "TURNED(W(BELOW)) U(* WITH(DIAERESIS LIGHT(CENTRALIZATION(STROKE)))) V W(* BELOW) X Z)))",
  "LEFT(ANGLE(ABOVE BELOW) ARROW(ABOVE BELOW) ARROWHEAD(ABOVE BELOW) HALF(RING(ABOVE BELOW))",
  "HARPOON(ABOVE) PARENTHESIS(ABOVE(LEFT) BELOW(LEFT)) RIGHT(ARROW(ABOVE BELOW)) TACK(BELOW))",
  "LEFTWARDS(ARROW(OVERLAY) HARPOON(WITH(BARB(DOWNWARDS)))) LIGATURE(LEFT(HALF(* BELOW))",
  "RIGHT(HALF(* BELOW))) LIGHT(CENTRALIZATION(STROKE(BELOW))) LONG(DOUBLE(SOLIDUS(OVERLAY))",
  "SOLIDUS(OVERLAY) STROKE(OVERLAY) VERTICAL(LINE(OVERLAY))) LOW(LINE) MACRON(* BELOW",
  "LEFT(HALF(* BELOW)) RIGHT(HALF(* BELOW))) MACRON-ACUTE MACRON-BREVE MACRON-GRAVE",
  "MINUS(SIGN(BELOW)) NOT(TILDE(ABOVE)) NUMBER(SIGN(ABOVE)) OGONEK(* ABOVE) OLD(PERMIC(LETTER(AN",
  "DOI NENOE SII ZATA))) OPEN(MARK(BELOW)) OVERLINE PALATALIZED(HOOK(BELOW)) PARENTHESES(ABOVE",
  "BELOW OVERLAY) PLUS(SIGN(ABOVE BELOW)) RETROFLEX(HOOK(BELOW)) REVERSE(SOLIDUS(OVERLAY))",
  "REVERSED(COMMA(ABOVE)) RIGHT(ARROW(ABOVE BELOW) ARROWHEAD(ABOVE AND(DOWN(ARROWHEAD(BELOW))",
  "UP(ARROWHEAD(BELOW))) BELOW) HALF(RING(ABOVE BELOW)) HARPOON(ABOVE) PARENTHESIS(ABOVE(RIGHT)",
  "BELOW(RIGHT)) TACK(BELOW)) RIGHTWARDS(HARPOON(WITH(BARB(DOWNWARDS)))) RING(ABOVE BELOW",
  "OVERLAY) SEAGULL(BELOW) SHORT(SOLIDUS(OVERLAY) STROKE(OVERLAY) VERTICAL(LINE(OVERLAY)))",
  "SNAKE(BELOW) SQUARE(BELOW BRACKETS(ABOVE)) STRONG(CENTRALIZATION(STROKE(BELOW)))",
  "SUSPENSION(MARK) THREE(DOTS(ABOVE)) TILDE(* BELOW LEFT(HALF(BELOW)) OVERLAY",
  "RIGHT(HALF(BELOW))) TRIPLE(ACUTE(ACCENT) DOT UNDERDOT) TURNED(COMMA(ABOVE)) UP(TACK(ABOVE",
  "BELOW)) UPWARDS(ARROW(BELOW)) UR(ABOVE) US(ABOVE) VERTICAL(LINE(ABOVE BELOW) TILDE)",
  "WIDE(BRIDGE(ABOVE) INVERTED(BRIDGE(BELOW))) WIGGLY(LINE(BELOW)) X(ABOVE BELOW) X-X(BELOW)",
  "ZIGZAG(ABOVE BELOW)) COMET COMMA COMMERCIAL(AT MINUS(SIGN)) COMPASS COMPLEMENT",
  "COMPOSITION(SYMBOL) COMPRESSION CONFETTI(BALL) CONFOUNDED(FACE) CONFUSED(FACE)",
  "CONGRUENT(WITH(DOT(ABOVE))) CONICAL(TAPER) CONJUNCTION CONSTRUCTION(SIGN WORKER)",
  "CONTAINS(AS(MEMBER NORMAL(SUBGROUP(* OR(EQUAL(TO))))) WITH(LONG(HORIZONTAL(STROKE)) OVERBAR",
  "VERTICAL(BAR(AT(END(OF(HORIZONTAL(STROKE)))))))) CONTINUOUS(UNDERLINE(SYMBOL))",
  "CONTOUR(INTEGRAL) CONTROL(KNOBS SEQUENCE(INTRODUCER)) CONVENIENCE(STORE) COOKED(RICE) COOKIE",
  "COOKING COPTIC(CAPITAL(LETTER(AKHMIMIC(KHEI) ALFA BOHAIRIC(KHEI) CROSSED(SHEI)",
  "CRYPTOGRAMMIC(EIE GANGIA NI SHEI) DALDA DEI DIALECT-P(ALEF HORI KAPA NI) EIE FEI FI GAMMA",
  "GANGIA HATE HORI IAUDA KAPA KHEI KHI KSI L-SHAPED(HA) LAULA MI NI O OLD(COPTIC(AIN DJA ESH",
  "GANGIA HA HAT HEI HORI OOU SHEI SHIMA) NUBIAN(NGI NYI SHIMA WAU)) OOU PI PSI RO SAMPI SHEI",
  "SHIMA SIMA SOU TAU THETHE UA VIDA ZATA)) COMBINING(NI(ABOVE) SPIRITUS(ASPER LENIS))",
  "EPACT(DIGIT(EIGHT FIVE FOUR NINE ONE SEVEN SIX THREE TWO) NUMBER(EIGHT(HUNDRED) EIGHTY FIFTY",
  "FIVE(HUNDRED) FORTY FOUR(HUNDRED) NINE(HUNDRED) NINETY ONE(HUNDRED) SEVEN(HUNDRED) SEVENTY",
  "SIX(HUNDRED) SIXTY TEN THIRTY THREE(HUNDRED) TWENTY TWO(HUNDRED)) THOUSANDS(MARK))",
  "FRACTION(ONE(HALF)) FULL(STOP) MORPHOLOGICAL(DIVIDER) OLD(NUBIAN(DIRECT(QUESTION(MARK))",
  "FULL(STOP) INDIRECT(QUESTION(MARK)) VERSE(DIVIDER))) SMALL(LETTER(AKHMIMIC(KHEI) ALFA",
  "BOHAIRIC(KHEI) CROSSED(SHEI) CRYPTOGRAMMIC(EIE GANGIA NI SHEI) DALDA DEI DIALECT-P(ALEF HORI",
  "KAPA NI) EIE FEI FI GAMMA GANGIA HATE HORI IAUDA KAPA KHEI KHI KSI L-SHAPED(HA) LAULA MI NI O",
  "OLD(COPTIC(AIN DJA ESH GANGIA HA HAT HEI HORI OOU SHEI SHIMA) NUBIAN(NGI NYI SHIMA WAU)) OOU",
  "PI PSI RO SAMPI SHEI SHIMA SIMA SOU TAU THETHE UA VIDA ZATA)) SYMBOL(KAI KHI(RO) MI(RO)",
  "PI(RO) SHIMA(SIMA) STAUROS TAU(RO))) COPYLEFT(SYMBOL) COPYRIGHT(SIGN) CORAL",
  "CORNISH(VERSE(DIVIDER)) CORRESPONDS(TO) COUCH(AND(LAMP)) COUNTERBORE COUNTERSINK",
  "COUNTING(ROD(TENS(DIGIT(EIGHT FIVE FOUR NINE ONE SEVEN SIX THREE TWO)) UNIT(DIGIT(EIGHT FIVE",
  "FOUR NINE ONE SEVEN SIX THREE TWO)))) COUPLE(WITH(HEART)) COW(* FACE) CR CRAB CREDIT(CARD)",
  "CRESCENT(MOON) CRICKET(* BAT(AND(BALL))) CROCODILE CROISSANT CROSS(MARK OF(JERUSALEM",
  "LORRAINE) PATTY(WITH(LEFT(CROSSBAR) RIGHT(CROSSBAR))) POMMEE(* WITH(HALF-CIRCLE(BELOW))))",
  "CROSSED(FLAGS NEGATIVE(SQUARED(LATIN(CAPITAL(LETTER(P))))) SWORDS) CROSSING(LANES) CROWN",
  "CRUTCH CRUZEIRO(SIGN) CRYING(CAT(FACE) FACE) CRYSTAL(BALL) CSI CUBE(ROOT) CUCUMBER",
  "CUNEIFORM(NUMERIC(SIGN(EIGHT(ASH DISH GESH2 SHAR2 U(* VARIANT(FORM)) VARIANT(FORM(USSU",
  "USSU3))) ELAMITE(FIFTY FORTY ONE(THIRD) TWO(THIRDS)) FIVE(ASH(* TENU) BAN2(* VARIANT(FORM))",
  "BURU DISH GESH2 GESHU SHAR2 SHARU SIXTHS(DISH) U(* VARIANT(FORM))) FOUR(ASH(* TENU) BAN2(*",
  "VARIANT(FORM)) BURU DISH GESH2 GESHU SHAR2 SHARU U(* VARIANT(FORM)) VARIANT(FORM(LIMMU(* A B)",
  "LIMMU4))) NIGIDAESH NIGIDAMIN NINE(ASH DISH GESH2 SHAR2 U(* VARIANT(FORM))",
  "VARIANT(FORM(ILIMMU(* A) ILIMMU3 ILIMMU4))) OLD(ASSYRIAN(ONE(QUARTER SIXTH))) ONE(BAN2 BURU",
  "EIGHTH(ASH) ESHE3 GESH2 GESHU HALF(GUR) QUARTER(ASH GUR) SHARU THIRD(DISH VARIANT(FORM(A))))",
  "SEVEN(ASH DISH GESH2 SHAR2 U(* VARIANT(FORM)) VARIANT(FORM(IMIN(A B) IMIN3)))",
  "SHAR2(TIMES(GAL(PLUS(DISH MIN)))) SIX(ASH(* TENU) DISH GESH2 SHAR2 U(* VARIANT(FORM))",
  "VARIANT(FORM(ASH9))) THREE(ASH(* TENU) BAN2 BURU(* VARIANT(FORM)) DISH GESH2 GESHU SHAR2(*",
  "VARIANT(FORM)) SHARU(* VARIANT(FORM)) VARIANT(FORM(ESH16 ESH21))) TWO(ASH(* TENU) BAN2 BURU",
  "ESHE3 GESH2 GESHU SHAR2 SHARU THIRDS(DISH VARIANT(FORM(A))))))",
  "PUNCTUATION(SIGN(DIAGONAL(COLON QUADCOLON TRICOLON) OLD(ASSYRIAN(WORD(DIVIDER)))",
  "VERTICAL(COLON))) SIGN(A(* TIMES(A BAD GAN2(TENU) HA IGI LAGAR(GUNU) MUSH SAG)) A2 AB(* GUNU",
  "TIMES(ASH2 DUN3(GUNU) GAL GAN2(TENU) HA IGI(GUNU) IMIN LAGAB NUN(* TENU) SHESH SHU2",
  "U(PLUS(U(PLUS(U)))))) AB2(* TIMES(A BALAG GAN2(TENU) ME(PLUS(EN)) SHA3 TAK4)) AD(*",
  "TIMES(ESH2)) AK(* TIMES(ERIN2 SHITA(PLUS(GISH)))) AL(* TIMES(AL DIM2 GISH HA KAD3 KI SHE",
  "USH)) ALAN ALEPH AMAR(* TIMES(KUG SHE)) AN(* OVER(AN) PLUS(NAGA(OPPOSING(AN(PLUS(NAGA)))",
  "SQUARED)) THREE(TIMES)) ANSHE APIN ARAD(* TIMES(KUR)) ARKAB ASAL2 ASH(* KABA(TENU)",
  "OVER(ASH(OVER(ASH(* CROSSING(ASH(OVER(ASH(OVER(ASH)))))))",
  "TUG2(OVER(TUG2(TUG2(OVER(TUG2(PAP)))))))) ZIDA(TENU)) ASH2 ASHGAB BA BAD(* TIMES(DISH(TENU)))",
  "BAG3 BAHAR2(* TIMES(AB2 NI ZA)) BAL(* OVER(BAL)) BALAG BAR BARA2 BI(* TIMES(A GAR IGI(GUNU)))",
  "BU(* CROSSING(BU) OVER(BU(AB TIMES(NA2) UN))) BULUG(* OVER(BULUG)) BUR BUR2 DA(* TIMES(TAK4))",
  "DAG(* KISIM5(TIMES(A(PLUS(MASH)) AMAR BALAG BI GA(* PLUS(MASH)) GI GIR2 GUD HA IR(* PLUS(LU))",
  "KAK LA LU(* PLUS(MASH2)) LUM NE PAP(PLUS(PAP)) SI TAK4 U2(PLUS(GIR2 MASH)) USH)) TIMES(KUR))",
  "DAG3 DAM DAR DARA3 DARA4 DI DIB DIM(* TIMES(IGI SHE U(U(U)))) DIM2(* TIMES(UD)) DIN(*",
  "KASKAL(U(GUNU(DISH)))) DISH(* PLUS(SHU)) DU(* GUNU OVER(DU) SHESHIG) DUB(* TIMES(ESH2 SHE))",
  "DUB2 DUG(* TIMES(ANSHE ASH(* AT(LEFT)) DIN DUN ERIN2 GA GI GIR2(GUNU) GISH HA HI IGI(GUNU)",
  "KASKAL KUR KUSHU2(* PLUS(KASKAL)) LAK-020 LAM(* TIMES(KUR)) LUH(PLUS(GISH)) MASH MES MI NI PI",
  "SHE SI(GUNU))) DUGUD DUH DUN DUN3(* GUNU(* GUNU)) DUN4 DUR2 E(* OVER(E(NUN(OVER(NUN))))",
  "TIMES(PAP)) E2(* TIMES(A(PLUS(HA(PLUS(DA)))) GAR KUR MI PAP SAL SHE U)) EDIN EGIR EL EN(*",
  "CROSSING(EN) OPPOSING(EN) SQUARED TIMES(GAN2(* TENU) ME)) EREN ERIN2(* X) ESH2(*",
  "CROSSING(ESH2)) EZEN(* SHESHIG(TIMES(ASH HI IGI(GUNU) LA LAL ME MES SU)) TIMES(A(* PLUS(LAL(*",
  "TIMES(LAL)))) AN BAD DUN3(GUNU(* GUNU)) GUD HA(* GUNU) IGI(GUNU) KASKAL(* SQUARED) KU3 LA",
  "LAL(TIMES(LAL)) LI LU SHE SU U2 UD)) GA(* GUNU) GA2(* OVER(GA2) TIMES(A(PLUS(DA(PLUS(HA)) HA",
  "IGI)) AB2(TENU(PLUS(TAB))) AN(* PLUS(KAK(PLUS(A)))) ASH ASH2(* PLUS(GAL)) BAD BAHAR2",
  "BAR(PLUS(RA)) BUR(* PLUS(RA)) DA DI DIM(GUNU TIMES(SHE)) DUB DUG(TIMES(IGI(GUNU) KASKAL))",
  "EL(* PLUS(LA)) EN(* TIMES(GAN2(TENU))) EREN GA GAN2(TENU) GAR(* PLUS(DI NE)) GI GI4(*",
  "PLUS(A)) GIR2(PLUS(SU)) HA(PLUS(A LU(PLUS(ESH2)))) HAL(* PLUS(LA)) HI(PLUS(LI)) HUB2",
  "IGI(GUNU) ISH(PLUS(HU(PLUS(ASH)))) KAK KASKAL KID(* PLUS(LAL)) KU3(PLUS(AN))",
  "KUSHU2(PLUS(KASKAL)) LA LAM(* TIMES(KUR)) LUH ME(PLUS(EN)) MI MUSH NE(* PLUS(E2 GI)) NUN(*",
  "OVER(NUN)) PA SAL SAR SHE(* PLUS(TUR)) SHID SHIM SUM TAK4 U UD(* PLUS(DU)) ZIZ2)) GABA(*",
  "CROSSING(GABA) ROTATED(NINETY(DEGREES))) GAD(* OVER(GAD(GAR(OVER(GAR))))) GAL(*",
  "GAD(OVER(GAD(GAR(OVER(GAR)))))) GALAM GAM GAN GAN2(* CROSSING(GAN2) OVER(GAN2) TENU) GAR GAR3",
  "GASHAN GE22 GESHTIN(* TIMES(KUR U)) GI(* CROSSING(GI) TIMES(E U)) GI4(* CROSSING(GI4)",
  "OVER(GI4)) GIDIM GIG GIR2(* GUNU) GIR3(* TIMES(A(PLUS(IGI)) GAN2(TENU) IGI LU(PLUS(IGI)) PA))",
  "GISAL GISH(* CROSSING(GISH) TENU TIMES(BAD GISH(CROSSING(GISH)) TAK4)) GU(* CROSSING(GU))",
  "GU2(* GUNU TIMES(IGI(GUNU) KAK(* TIMES(IGI(GUNU))) NUN SAL(PLUS(TUG2)))) GUD(*",
  "OVER(GUD(LUGAL)) PLUS(GISH(TIMES(TAK4))) TIMES(A(PLUS(KUR)) KUR)) GUL GUM(* TIMES(SHE)) GUR",
  "GUR7 GURUN GURUSH HA(* GUNU TENU(* GUNU)) HAL HI(* TIMES(ASH(* OVER(HI(TIMES(ASH)))) ASH2 BAD",
  "DISH GAD KIN NUN SHE U)) HU HUB2(* TIMES(AN HAL KASKAL LISH UD)) HUL2 HUSH I(* A) IB IDIM(*",
  "OVER(IDIM(BUR SQUARED))) IG IGI(* DIB GUNU OVER(IGI(SHIR(OVER(SHIR(UD(OVER(UD))))))) RI) IL(*",
  "TIMES(GAN2(TENU))) IL2 IM(* CROSSING(IM) OPPOSING(IM) SQUARED TIMES(TAK4)) IMIN IN IR ISH",
  "KA(* TIMES(A AD(* PLUS(KU3)) ANSHE ASH2 ASH3 BAD BALAG BAR BI BU ERIN2 ESH2 GA GAL GAN2(TENU)",
  "GAR(* PLUS(SHA3(PLUS(A)))) GI GIR2 GISH(* CROSSING(GISH) PLUS(SAR)) GU GUD GUR7",
  "HI(TIMES(ASH2)) IGI IM KA KAK KI KID LI LU LUM ME(* PLUS(DU GI TE)) MI(* PLUS(NUNUZ)) NE NUN",
  "PA PI RU SA SAR SHA SHE SHID SHU SHUL SIG SUHUR TAR TU U(* U(U)) U2 UD UMUM(TIMES(PA)) UR UR2",
  "USH ZI)) KA2(* CROSSING(KA2)) KAB KAD2 KAD3 KAD4 KAD5(* OVER(KAD5)) KAK(* TIMES(IGI(GUNU)))",
  "KAL(* CROSSING(KAL) TIMES(BAD)) KAM2 KAM4 KAP(ELAMITE) KASKAL(*",
  "LAGAB(TIMES(U(OVER(LAGAB(TIMES(U)))))) OVER(KASKAL(LAGAB(TIMES(U(OVER(LAGAB(TIMES(U)))))))))",
  "KESH2 KI(* TIMES(BAD U UD)) KID KIN KISAL KISH KISIM5(* OVER(KISIM5)) KU(*",
  "OVER(HI(TIMES(ASH2(KU(OVER(HI(TIMES(ASH2))))))))) KU3 KU4(* VARIANT(FORM)) KU7 KUL(* GUNU)",
  "KUN KUR(* OPPOSING(KUR)) KUSHU2 KWU318 LA LAGAB(* SQUARED TIMES(A(* PLUS(DA(PLUS(HA)) GAR",
  "LAL)) AL AN ASH(ZIDA(TENU)) BAD BI DAR EN GA GAR GI GUD(* PLUS(GUD)) HA HAL HI(TIMES(NUN))",
  "IGI(GUNU) IM(* PLUS(HA LU)) KI KIN KU3 KUL(* PLUS(HI(PLUS(A)))) LAGAB LISH LU LUL ME(*",
  "PLUS(EN)) MUSH NE SHE(PLUS(SUM)) SHITA(PLUS(GISH(PLUS(ERIN2) TENU))) SHU2(* PLUS(SHU2)) SUM",
  "TAG TAK4 TE(PLUS(A(PLUS(SU(PLUS(NA)))))) U(* PLUS(A U(PLUS(U)))) U2(PLUS(ASH)) UD USH",
  "ZU(OVER(ZU)))) LAGAR(* GUNU(* OVER(LAGAR(GUNU(SHE)))) TIMES(SHE(* PLUS(SUM)))) LAHSHU LAK-003",
  "LAK-021 LAK-025 LAK-030 LAK-050 LAK-051 LAK-062 LAK-079(OVER(LAK-079(GUNU))) LAK-080",
  "LAK-081(OVER(LAK-081)) LAK-092 LAK-130 LAK-142 LAK-210 LAK-219 LAK-220 LAK-225 LAK-228",
  "LAK-238 LAK-265 LAK-266 LAK-343 LAK-347 LAK-348 LAK-383 LAK-384 LAK-390 LAK-441 LAK-449(*",
  "TIMES(GU IGI PAP(PLUS(LU3 PAP(PLUS(LU3)))) U2(PLUS(BA)))) LAK-450 LAK-457 LAK-470 LAK-483",
  "LAK-490 LAK-492 LAK-493 LAK-495 LAK-550 LAK-608 LAK-617(* TIMES(ASH BAD DUN3(GUNU(GUNU)) KU3",
  "LA TAR TE U2 UD URUDA)) LAK-636 LAK-648(* TIMES(DUB GA IGI(* GUNU) NI",
  "PAP(PLUS(PAP(PLUS(LU3)))) SHESH(PLUS(KI)) UD URUDA)) LAK-724 LAK-749 LAL(* TIMES(LAL)) LAM(*",
  "TIMES(KUR(* PLUS(RU)))) LI LIL LIMMU2 LISH LU(* TIMES(BAD)) LU2(* CROSSING(LU2)",
  "GUNU(TIMES(ASH)) OPPOSING(LU2) SHESHIG(* TIMES(BAD)) SQUARED TENU TIMES(AL BAD DISH ESH2(*",
  "PLUS(LAL) TENU) GAN2(TENU) HAL HI(TIMES(BAD)) IM KAD2 KAD3(* PLUS(ASH)) KI LA(PLUS(ASH))",
  "LAGAB ME(PLUS(EN)) NE NU PAP(* PLUS(PAP(PLUS(LU3)))) SHU SI(PLUS(ASH)) SIK2(PLUS(BU)) TAK4",
  "TUG2)) LU3 LUGAL(* OPPOSING(LUGAL) OVER(LUGAL) SHESHIG) LUH LUL LUM(* OVER(LUM(*",
  "GAR(OVER(GAR))))) MA(* GUNU TIMES(TAK4)) MA2 MAH MAR MASH MASH2 ME MES MESH MI(* PLUS(ZA7))",
  "MIN MU(* OVER(MU)) MUG(* GUNU) MUNSUB MURGU2 MUSH(* CROSSING(MUSH) OVER(MUSH(*",
  "TIMES(A(PLUS(NA)) GA KAK))) TIMES(A KUR ZA)) MUSH3(* GUNU TIMES(A(* PLUS(DI)) DI ZA)) NA NA2",
  "NA4 NAGA(* INVERTED OPPOSING(NAGA) TIMES(SHU(TENU))) NAGAR NAM(* NUTILLU) NAM2 NE(* SHESHIG",
  "TIMES(A UD)) NI(* TIMES(E)) NI2 NIM(* TIMES(GAN2(TENU) GAR(PLUS(GAN2(TENU))))) NIN NIN9",
  "NINDA2(* TIMES(AN ASH(* PLUS(ASH)) BAL DIM(GUNU) GI GISH GUD GUL HI KESH2 LAK-050 MASH",
  "ME(PLUS(GAN2(TENU))) NE NUN PAP(PLUS(PAP)) SHE(* PLUS(A(AN) ASH(* PLUS(ASH)))) U(* PLUS(U))",
  "U2(PLUS(ASH)) URUDA USH)) NISAG NU NU11(* OVER(NU11(BUR(OVER(BUR)))) ROTATED(NINETY(DEGREES))",
  "TENU) NUN(* CROSSING(NUN(* LAGAR(OVER(LAGAR)))) LAGAR(TIMES(GAR MASH SAL(*",
  "OVER(NUN(LAGAR(TIMES(SAL))))) USH)) OVER(NUN) TENU) NUNUZ(* AB2(TIMES(ASHGAB BI DUG GUD",
  "IGI(GUNU) KAD3 LA NE SILA3 U2)) KISIM5(TIMES(BI(* U)))) PA PAD PAN PAP PESH2(* ASTERISK) PI(*",
  "CROSSING(PI) TIMES(A AB BI BU E I IB U U2)) PIR2 PIRIG(* OPPOSING(PIRIG) TIMES(KAL UD ZA)) RA",
  "RAB RI RU SA SAG(* GUNU(* TIMES(HA)) NUTILLU OVER(SAG) TIMES(A DU DUB EN HA IGI(GUNU) KAK KUR",
  "LUM MI NUN SAL SHE(AT(LEFT)) SHID TAB TAK4 U2 UB UM UR USH)) SAL(* LAGAB(TIMES(ASH2))) SANGA2",
  "SAR SHA SHA3(* TIMES(A BAD GISH NE SHU2 TUR U(* PLUS(A)))) SHA6(* TENU) SHAB6 SHAR2 SHE(* HU",
  "OVER(SHE(* GAD(OVER(GAD(GAR(OVER(GAR))))) TAB(OVER(TAB(GAR(OVER(GAR))))))) PLUS(HUB2 NAM2",
  "SAR)) SHEG9 SHEN SHESH SHESH2 SHESHLAM SHID(* TIMES(A IM)) SHIM(* TIMES(A BAL BULUG DIN GAR",
  "IGI(* GUNU) KUSHU2 LUL MUG SAL)) SHINIG SHIR(* OVER(SHIR(BUR(OVER(BUR)))) TENU) SHITA SHU(*",
  "OVER(INVERTED(SHU))) SHU2(* PLUS(DUG(TIMES(NI)) E2(TIMES(AN)))) SHUBUR SI(* GUNU TIMES(TAK4))",
  "SIG SIG4(* OVER(SIG4(SHU2))) SIK2 SILA3 SU(* OVER(SU)) SUD SUD2 SUHUR SUM SUMASH SUR SUR9",
  "TA(* ASTERISK GUNU TIMES(HI MI)) TAB(* OVER(TAB(NI(OVER(NI(DISH(OVER(DISH))))))) SQUARED)",
  "TAG(* TIMES(BI GUD SHE SHU TUG2 UD)) TAK4(* PLUS(SAG)) TAR TE(* GUNU) TI(* TENU) TI2 TIL",
  "TIR(* OVER(TIR(* GAD(OVER(GAD(GAR(OVER(GAR))))))) TIMES(TAK4)) TU TUG2 TUK TUM(*",
  "TIMES(GAN2(TENU) THREE(DISH))) TUR(* OVER(TUR(ZA(OVER(ZA))))) U(* GUD",
  "OVER(U(PA(OVER(PA(GAR(OVER(GAR))))) SUR(OVER(SUR)) U(REVERSED(OVER(U(REVERSED)))))) U(* U))",
  "U2 UB UD(* GUNU KUSHU2 SHESHIG(* TIMES(BAD)) TIMES(BAD MI U(PLUS(U(PLUS(U(* GUNU))))))) UDUG",
  "UM(* TIMES(LAGAB ME(* PLUS(DA)) SHA3 U)) UMBIN UMUM(* TIMES(KASKAL PA)) UN(* GUNU) UR(*",
  "CROSSING(UR) SHESHIG) UR2(* INVERTED TIMES(A(PLUS(HA NA)) AL HA NUN U2(* PLUS(ASH BI)) UD))",
  "UR4 URI URI3 URU(* TIMES(A ASHGAB BAR DARA3 DUN GA GAL GAN2(TENU) GAR GU HA IGI IM ISH KI",
  "LAK-668 LU3 LUM MIN PA SHE SIG4 TU U(PLUS(GUD)) UD URUDA)) URUDA(* TIMES(U)) USH(* TIMES(A KU",
  "KUR TAK4)) USH2 USHUMX USHX UTUKI UZ3(* TIMES(KASKAL)) UZU ZA(* SQUARED(TIMES(KUR)) TENU) ZA7",
  "ZAG ZAMX ZE2 ZI(* OVER(ZI)) ZI3 ZIB(* KABA(TENU)) ZIG ZIZ2 ZU(* OVER(ZU(PLUS(SAR)))) ZU5(*",
  "TIMES(A THREE(DISH(TENU)))) ZUBUR ZUM)) CUP(ON(BLACK(SQUARE)) WITH(STRAW)) CUPCAKE CUPIDO",
  "CURLING(STONE) CURLY(BRACKET(EXTENSION) LOGICAL(AND OR) LOOP) CURRENCY(EXCHANGE SIGN)",
  "CURRY(AND(RICE)) CURVED(STEM(PARAGRAPH(SIGN(ORNAMENT)))) CUSTARD CUSTOMS CUT(OF(MEAT))",
  "CYCLONE CYLINDRICITY CYPRIOT(SYLLABLE(A E I JA JO KA KE KI KO KU LA LE LI LO LU MA ME MI MO",
  "MU NA NE NI NO NU O PA PE PI PO PU RA RE RI RO RU SA SE SI SO SU TA TE TI TO TU U WA WE WI WO",
  "XA XE ZA ZO)) CYPRO-MINOAN(SIGN(CM001 CM002 CM004 CM005 CM006 CM007 CM008 CM009 CM010 CM011",
  "CM012 CM012B CM013 CM015 CM017 CM019 CM021 CM023 CM024 CM025 CM026 CM027 CM028 CM029 CM030",
  "CM033 CM034 CM035 CM036 CM037 CM038 CM039 CM040 CM041 CM044 CM046 CM047 CM049 CM050 CM051",
  "CM052 CM053 CM054 CM055 CM056 CM058 CM059 CM060 CM061 CM062 CM063 CM064 CM066 CM067 CM068",
  "CM069 CM070 CM071 CM072 CM073 CM074 CM075 CM075B CM076 CM078 CM079 CM080 CM081 CM082 CM083",
  "CM084 CM085 CM086 CM087 CM088 CM089 CM090 CM091 CM092 CM094 CM095 CM096 CM097 CM098 CM099",
  "CM100 CM101 CM102 CM103 CM104 CM105 CM107 CM108 CM109 CM110 CM112 CM114 CM301 CM302))",
  "CYRILLIC(CAPITAL(LETTER(A(* WITH(BREVE DIAERESIS)) ABKHASIAN(CHE(* WITH(DESCENDER)) DZE HA)",
  "ALEUT(KA) BARRED(O(* WITH(DIAERESIS))) BASHKIR(KA) BE BIG(YUS) BINOCULAR(O) BLENDED(YUS)",
  "BROAD(OMEGA) BYELORUSSIAN-UKRAINIAN(I) CCHE CHE(* WITH(DESCENDER DIAERESIS VERTICAL(STROKE)))",
  "CLOSED(LITTLE(YUS)) CROSSED(O) DCHE DE DJE DJERV DOUBLE(MONOCULAR(O) O) DWE DZE DZELO DZHE",
  "DZWE DZZE DZZHE E(* WITH(DIAERESIS)) EF EL(* WITH(DESCENDER HOOK MIDDLE(HOOK) TAIL)) EM(*",
  "WITH(TAIL)) EN(* WITH(DESCENDER HOOK LEFT(HOOK) MIDDLE(HOOK) TAIL)) ER(* WITH(TICK)) ES(*",
  "WITH(DESCENDER)) FITA GHE(* WITH(DESCENDER MIDDLE(HOOK) STROKE(* AND(HOOK)) UPTURN)) GJE HA(*",
  "WITH(DESCENDER HOOK STROKE)) HARD(SIGN) HWE I(* WITH(DIAERESIS GRAVE MACRON)) IE(* WITH(BREVE",
  "GRAVE)) IO IOTA IOTIFIED(A BIG(YUS) CLOSED(LITTLE(YUS)) E LITTLE(YUS) YAT) IZHITSA(*",
  "WITH(DOUBLE(GRAVE(ACCENT)))) JE KA(* WITH(DESCENDER HOOK STROKE VERTICAL(STROKE)))",
  "KHAKASSIAN(CHE) KJE KOMI(DE DJE DZJE LJE NJE SJE TJE ZJE) KOPPA KSI LHA LITTLE(YUS) LJE",
  "MONOCULAR(O) MONOGRAPH(UK) NEUTRAL(YER) NJE O(* WITH(DIAERESIS)) OMEGA(* WITH(TITLO)) OT PE(*",
  "WITH(DESCENDER MIDDLE(HOOK))) PSI QA REVERSED(DZE TSE YU ZE) RHA ROUND(OMEGA) SCHWA(*",
  "WITH(DIAERESIS)) SEMISOFT(SIGN) SHA SHCHA SHHA(* WITH(DESCENDER)) SHORT(I(* WITH(TAIL)) U)",
  "SHWE SOFT(DE EL EM SIGN) STRAIGHT(U(* WITH(STROKE))) TCHE TE(* WITH(DESCENDER MIDDLE(HOOK)))",
  "TSE TSHE TSSE TSWE TWE U(* WITH(DIAERESIS DOUBLE(ACUTE) MACRON)) UK UKRAINIAN(IE) VE WE YA",
  "YAE YAT YERU(* WITH(BACK(YER) DIAERESIS)) YI YN YU ZE(* WITH(DESCENDER DIAERESIS)) ZEMLYA",
  "ZHE(* WITH(BREVE DESCENDER DIAERESIS)) ZHWE) LIGATURE(A(IE) EN(GHE) TE(TSE))) KAVYKA",
  "LETTER(MULTIOCULAR(O) PALOCHKA SMALL(CAPITAL(EL))) PAYEROK SMALL(LETTER(A(* WITH(BREVE",
  "DIAERESIS)) ABKHASIAN(CHE(* WITH(DESCENDER)) DZE HA) ALEUT(KA) BARRED(O(* WITH(DIAERESIS)))",
  "BASHKIR(KA) BE BIG(YUS) BINOCULAR(O) BLENDED(YUS) BROAD(OMEGA) BYELORUSSIAN-UKRAINIAN(I) CCHE",
  "CHE(* WITH(DESCENDER DIAERESIS VERTICAL(STROKE))) CLOSED(LITTLE(YUS)) CROSSED(O) DCHE DE DJE",
  "DJERV DOUBLE(MONOCULAR(O) O) DWE DZE DZELO DZHE DZWE DZZE DZZHE E(* WITH(DIAERESIS)) EF EL(*",
  "WITH(DESCENDER HOOK MIDDLE(HOOK) TAIL)) EM(* WITH(TAIL)) EN(* WITH(DESCENDER HOOK LEFT(HOOK)",
  "MIDDLE(HOOK) TAIL)) ER(* WITH(TICK)) ES(* WITH(DESCENDER)) FITA GHE(* WITH(DESCENDER",
  "MIDDLE(HOOK) STROKE(* AND(HOOK)) UPTURN)) GJE HA(* WITH(DESCENDER HOOK STROKE)) HARD(SIGN)",
  "HWE I(* WITH(DIAERESIS GRAVE MACRON)) IE(* WITH(BREVE GRAVE)) IO IOTA IOTIFIED(A BIG(YUS)",
  "CLOSED(LITTLE(YUS)) E LITTLE(YUS) YAT) IZHITSA(* WITH(DOUBLE(GRAVE(ACCENT)))) JE KA(*",
  "WITH(DESCENDER HOOK STROKE VERTICAL(STROKE))) KHAKASSIAN(CHE) KJE KOMI(DE DJE DZJE LJE NJE",
  "SJE TJE ZJE) KOPPA KSI LHA LITTLE(YUS) LJE LONG-LEGGED(DE) MONOCULAR(O) MONOGRAPH(UK)",
  "NARROW(O) NEUTRAL(YER) NJE O(* WITH(DIAERESIS)) OMEGA(* WITH(TITLO)) OT PALOCHKA PE(*",
  "WITH(DESCENDER MIDDLE(HOOK))) PSI QA REVERSED(DZE TSE YU ZE) RHA ROUND(OMEGA) ROUNDED(VE)",
  "SCHWA(* WITH(DIAERESIS)) SEMISOFT(SIGN) SHA SHCHA SHHA(* WITH(DESCENDER)) SHORT(I(*",
  "WITH(TAIL)) U) SHWE SOFT(DE EL EM SIGN) STRAIGHT(U(* WITH(STROKE))) TALL(HARD(SIGN) TE YAT)",
  "TCHE TE(* WITH(DESCENDER MIDDLE(HOOK))) THREE-LEGGED(TE) TSE TSHE TSSE TSWE TWE U(*",
  "WITH(DIAERESIS DOUBLE(ACUTE) MACRON)) UK UKRAINIAN(IE) UNBLENDED(UK) VE WE WIDE(ES) YA YAE",
  "YAT YERU(* WITH(BACK(YER) DIAERESIS)) YI YN YU ZE(* WITH(DESCENDER DIAERESIS)) ZEMLYA ZHE(*",
  "WITH(BREVE DESCENDER DIAERESIS)) ZHWE) LIGATURE(A(IE) EN(GHE) TE(TSE))) THOUSANDS(SIGN))"]

/-- The names that start with D. -/
def characterNamesD : List String := [
  "DAGGER(* KNIFE WITH(LEFT(GUARD) RIGHT(GUARD))) DALET(SYMBOL) DANCER DANGO DARK(SHADE",
  "SUNGLASSES) DASH(SYMBOL WITH(LEFT(UPTURN))) DASHED(LOW(LINE) OVERLINE",
  "TRIANGLE-HEADED(RIGHTWARDS(ARROW))) DATA(LINK(ESCAPE)) DC1 DC2 DC3 DC4 DCS DEAF(PERSON)",
  "DECIDUOUS(TREE) DECIMAL(EXPONENT(SYMBOL) SEPARATOR(KEY(SYMBOL))) DECREASE(FONT(SIZE(SYMBOL)))",
  "DEER DEGREE(CELSIUS FAHRENHEIT SIGN) DEL DELETE DELIVERY(TRUCK) DELTA(EQUAL(TO))",
  "DENTISTRY(SYMBOL(LIGHT(DOWN(AND(HORIZONTAL(* WITH(CIRCLE TRIANGLE WAVE))))",
  "UP(AND(HORIZONTAL(* WITH(CIRCLE TRIANGLE WAVE)))) VERTICAL(AND(BOTTOM(LEFT RIGHT) TOP(LEFT",
  "RIGHT) WAVE) WITH(CIRCLE TRIANGLE))))) DEPARTMENT(STORE) DERELICT(HOUSE(BUILDING))",
  "DESCENDING(NODE) DESERET(CAPITAL(LETTER(AY BEE CHEE DEE EF EL EM EN ENG ER ES ESH ETH EW GAY",
  "H JEE KAY LONG(A AH E I O OO) OI OW PEE SHORT(A AH E I O OO) TEE THEE VEE WU YEE ZEE ZHEE))",
  "SMALL(LETTER(AY BEE CHEE DEE EF EL EM EN ENG ER ES ESH ETH EW GAY H JEE KAY LONG(A AH E I O",
  "OO) OI OW PEE SHORT(A AH E I O OO) TEE THEE VEE WU YEE ZEE ZHEE))) DESERT(* ISLAND)",
  "DESKTOP(COMPUTER WINDOW) DEVANAGARI(ABBREVIATION(SIGN) ACUTE(ACCENT) CARET DANDA DIGIT(EIGHT",
  "FIVE FOUR NINE ONE SEVEN SIX THREE TWO ZERO) DOUBLE(DANDA) GAP(FILLER) GRAVE(ACCENT)",
  "HEADSTROKE JAIN(OM) LETTER(A AA AI AU AW AY BA BBA BHA CA CANDRA(A E O) CHA DA DDA DDDA DDDHA",
  "DDHA DHA E FA GA GGA GHA GHHA GLOTTAL(STOP) HA HEAVY(YA) I II JA JHA JJA KA KHA KHHA LA LLA",
  "LLLA MA MARWARI(DDA) NA NGA NNA NNNA NYA O OE OOE PA PHA QA RA RHA RRA SA SHA SHORT(A E O)",
  "SSA TA THA TTA TTHA U UE UU UUE VA VOCALIC(L LL R RR) YA YYA ZA ZHA) OM SIGN(ANUSVARA",
  "AVAGRAHA CANDRABINDU(* AVAGRAHA THREE TWO VIRAMA) DOUBLE(CANDRABINDU(VIRAMA))",
  "HIGH(SPACING(DOT)) INVERTED(CANDRABINDU) NUKTA PUSHPIKA SIDDHAM SPACING(CANDRABINDU) VIRAMA",
  "VISARGA) STRESS(SIGN(ANUDATTA UDATTA)) VOWEL(SIGN(AA AI AU AW AY CANDRA(E LONG(E) O) E I II O",
  "OE OOE PRISHTHAMATRA(E) SHORT(E O) U UE UU UUE VOCALIC(L LL R RR)))) DEVICE(CONTROL(FOUR ONE",
  "STRING THREE TWO)) DIAERESIS DIAMETER(SIGN) DIAMOND(OPERATOR SHAPE(WITH(A(DOT(INSIDE))))",
  "TARGET WITH(BOTTOM(HALF(BLACK)) LEFT(HALF(BLACK)) RIGHT(HALF(BLACK)) TOP(HALF(BLACK))))",
  "DIE(FACE-1 FACE-2 FACE-3 FACE-4 FACE-5 FACE-6) DIESEL(LOCOMOTIVE) DIFFERENCE(BETWEEN)",
  "DIGIT(EIGHT(* COMMA FULL(STOP)) FIVE(* COMMA FULL(STOP)) FOUR(* COMMA FULL(STOP)) NINE(*",
  "COMMA FULL(STOP)) ONE(* COMMA FULL(STOP)) SEVEN(* COMMA FULL(STOP)) SIX(* COMMA FULL(STOP))",
  "THREE(* COMMA FULL(STOP)) TWO(* COMMA FULL(STOP)) ZERO(* COMMA FULL(STOP))) DIGRAM(FOR(EARTH",
  "EARTHLY(HEAVEN HUMAN) GREATER(YANG YIN) HEAVENLY(EARTH) HUMAN(EARTH) LESSER(YANG YIN)))",
  "DIMENSION(ORIGIN) DINGBAT(CIRCLED(SANS-SERIF(DIGIT(EIGHT FIVE FOUR NINE ONE SEVEN SIX THREE",
  "TWO ZERO) NUMBER(TEN))) NEGATIVE(CIRCLED(DIGIT(EIGHT FIVE FOUR NINE ONE SEVEN SIX THREE TWO)",
  "NUMBER(TEN) SANS-SERIF(DIGIT(EIGHT FIVE FOUR NINE ONE SEVEN SIX THREE TWO ZERO)",
  "NUMBER(TEN))))) DIRECT(CURRENT(SYMBOL(FORM(TWO))) HIT) DISABLED(CAR)",
  "DISAPPOINTED(BUT(RELIEVED(FACE)) FACE) DISCONTINUOUS(UNDERLINE(SYMBOL)) DISGUISED(FACE)",
  "DITTO(MARK) DIVES(AKURU(DIGIT(EIGHT FIVE FOUR NINE ONE SEVEN SIX THREE TWO ZERO)",
  "DOUBLE(DANDA) END(OF(TEXT(MARK))) GAP(FILLER) INITIAL(RA) LETTER(A AA BA BHA CA CHA DA DDA",
  "DDHA DHA E GA GHA HA I II JA KA KHA LA LLA MA NA NGA NNA NYA O PA PHA RA SA SHA SSA TA THA",
  "TTA U UU VA YA YYA ZA) MEDIAL(RA YA) PREFIXED(NASAL(SIGN)) SIGN(ANUSVARA CANDRABINDU HALANTA",
  "NUKTA) VIRAMA VOWEL(SIGN(AA AI E I II O U UU)))) DIVIDES DIVING(MASK) DIVISION(SIGN SLASH",
  "TIMES) DIVORCE(SYMBOL) DIYA(LAMP) DIZZY(FACE SYMBOL) DLE DNA(DOUBLE(HELIX))",
  "DO(NOT(LITTER(SYMBOL))) DOCUMENT(* WITH(PICTURE TEXT(* AND(PICTURE)))) DODO",
  "DOES(NOT(CONTAIN(AS(MEMBER NORMAL(SUBGROUP(* OR(EQUAL))))) DIVIDE(*",
  "WITH(REVERSED(NEGATION(SLASH)))) FORCE PRECEDE(* OR(EQUAL)) PROVE SUCCEED(* OR(EQUAL))))",
  "DOG(* FACE) DOGRA(ABBREVIATION(SIGN) LETTER(A AA AI AU BA BHA CA CHA DA DDA DDHA DHA E GA GHA",
  "HA I II JA JHA KA KHA LA MA NA NGA NNA NYA O PA PHA RA RRA SA SHA SSA TA THA TTA TTHA U UU VA",
  "YA) SIGN(ANUSVARA NUKTA VIRAMA VISARGA) VOWEL(SIGN(AA AI AU E I II O U UU VOCALIC(R RR))))",
  "DOLLAR(SIGN) DOLPHIN DOMINO(TILE(HORIZONTAL(BACK) HORIZONTAL-00-00 HORIZONTAL-00-01",
  "HORIZONTAL-00-02 HORIZONTAL-00-03 HORIZONTAL-00-04 HORIZONTAL-00-05 HORIZONTAL-00-06",
  "HORIZONTAL-01-00 HORIZONTAL-01-01 HORIZONTAL-01-02 HORIZONTAL-01-03 HORIZONTAL-01-04",
  "HORIZONTAL-01-05 HORIZONTAL-01-06 HORIZONTAL-02-00 HORIZONTAL-02-01 HORIZONTAL-02-02",
  "HORIZONTAL-02-03 HORIZONTAL-02-04 HORIZONTAL-02-05 HORIZONTAL-02-06 HORIZONTAL-03-00",
  "HORIZONTAL-03-01 HORIZONTAL-03-02 HORIZONTAL-03-03 HORIZONTAL-03-04 HORIZONTAL-03-05",
  "HORIZONTAL-03-06 HORIZONTAL-04-00 HORIZONTAL-04-01 HORIZONTAL-04-02 HORIZONTAL-04-03",
  "HORIZONTAL-04-04 HORIZONTAL-04-05 HORIZONTAL-04-06 HORIZONTAL-05-00 HORIZONTAL-05-01",
  "HORIZONTAL-05-02 HORIZONTAL-05-03 HORIZONTAL-05-04 HORIZONTAL-05-05 HORIZONTAL-05-06",
  "HORIZONTAL-06-00 HORIZONTAL-06-01 HORIZONTAL-06-02 HORIZONTAL-06-03 HORIZONTAL-06-04",
  "HORIZONTAL-06-05 HORIZONTAL-06-06 VERTICAL(BACK) VERTICAL-00-00 VERTICAL-00-01 VERTICAL-00-02",
  "VERTICAL-00-03 VERTICAL-00-04 VERTICAL-00-05 VERTICAL-00-06 VERTICAL-01-00 VERTICAL-01-01",
  "VERTICAL-01-02 VERTICAL-01-03 VERTICAL-01-04 VERTICAL-01-05 VERTICAL-01-06 VERTICAL-02-00",
  "VERTICAL-02-01 VERTICAL-02-02 VERTICAL-02-03 VERTICAL-02-04 VERTICAL-02-05 VERTICAL-02-06",
  "VERTICAL-03-00 VERTICAL-03-01 VERTICAL-03-02 VERTICAL-03-03 VERTICAL-03-04 VERTICAL-03-05",
  "VERTICAL-03-06 VERTICAL-04-00 VERTICAL-04-01 VERTICAL-04-02 VERTICAL-04-03 VERTICAL-04-04",
  "VERTICAL-04-05 VERTICAL-04-06 VERTICAL-05-00 VERTICAL-05-01 VERTICAL-05-02 VERTICAL-05-03",
  "VERTICAL-05-04 VERTICAL-05-05 VERTICAL-05-06 VERTICAL-06-00 VERTICAL-06-01 VERTICAL-06-02",
  "VERTICAL-06-03 VERTICAL-06-04 VERTICAL-06-05 VERTICAL-06-06)) DONG(SIGN) DOOR DOT(ABOVE MINUS",
  "OPERATOR PLUS) DOTTED(CIRCLE CROSS FENCE LINE(FACE) OBELOS RIGHT-POINTING(ANGLE) SOLIDUS",
  "SQUARE TRANSPOSITION(MARKER)) DOUBLE(ACUTE(ACCENT) CIRCLED(DIGIT(EIGHT FIVE FOUR NINE ONE",
  "SEVEN SIX THREE TWO) NUMBER(TEN)) COLON(EQUAL) CURLY(LOOP) DAGGER DOWN(TACK)",
  "EXCLAMATION(MARK) HIGH-REVERSED-9(QUOTATION(MARK)) HYPHEN INTEGRAL INTERSECTION",
  "LEFT(ARC(GREATER-THAN(BRACKET))) LOGICAL(AND OR) LOW(LINE) LOW-9(QUOTATION(MARK))",
  "LOW-REVERSED-9(QUOTATION(MARK)) NESTED(GREATER-THAN LESS-THAN(* WITH(UNDERBAR)))",
  "OBLIQUE(HYPHEN) PLUS PRECEDES PRIME(* QUOTATION(MARK)) QUESTION(MARK)",
  "RIGHT(ARC(LESS-THAN(BRACKET))) SOLIDUS(OPERATOR) SQUARE(INTERSECTION UNION) STACKED(COMMA)",
  "STROKE(NOT(SIGN)) SUBSET SUCCEEDS SUPERSET SUSPENSION(MARK) UNION UP(TACK) VERTICAL(BAR(*",
  "DOUBLE(LEFT(TURNSTILE) RIGHT(TURNSTILE)) LEFT(TURNSTILE)) LINE) WAVY(OVERLINE))",
  "DOUBLE-ENDED(MULTIMAP) DOUBLE-LINE(EQUAL(TO(OR(GREATER-THAN LESS-THAN)))",
  "SLANTED(EQUAL(TO(OR(GREATER-THAN LESS-THAN))) GREATER-THAN(OR(EQUAL(TO)))",
  "LESS-THAN(OR(EQUAL(TO))))) DOUBLE-STRUCK(CAPITAL(C GAMMA H N P PI Q R Z) ITALIC(CAPITAL(D)",
  "SMALL(D E I J)) N-ARY(SUMMATION) SMALL(GAMMA PI)) DOUBLED(FEMALE(SIGN) MALE(SIGN) SYMBOL)",
  "DOUGHNUT DOVE(OF(PEACE)) DOWN(ARROWHEAD FISH(TAIL) RIGHT(DIAGONAL(ELLIPSIS)) TACK(*",
  "WITH(CIRCLE(BELOW)))) DOWN-POINTING(RED(TRIANGLE) SMALL(RED(TRIANGLE))",
  "TRIANGLE(WITH(LEFT(HALF(BLACK)) RIGHT(HALF(BLACK))))) DOWNWARD(FACING(HOOK(* WITH(DOT))",
  "NOTCHED(HOOK(* WITH(DOT))))) DOWNWARDS(ANCORA ARROW(* AND(RIGHT(ONE(EIGHTH(BLOCK))))",
  "FROM(BAR) LEFTWARDS(OF(UPWARDS(ARROW))) TO(BAR) WITH(CORNER(LEFTWARDS) DOUBLE(STROKE)",
  "EQUILATERAL(ARROWHEAD) HORIZONTAL(STROKE) LARGE(TRIANGLE(ARROWHEAD))",
  "MEDIUM(TRIANGLE(ARROWHEAD)) NOTCHED(TAIL) SMALL(EQUILATERAL(ARROWHEAD) TRIANGLE(ARROWHEAD))",
  "TIP(LEFTWARDS RIGHTWARDS))) BLACK(ARROW CIRCLED(WHITE(ARROW))) COMPRESSED(ARROW)",
  "DASHED(ARROW) DOUBLE(ARROW) FINGER-POST(ARROW)",
  "HARPOON(WITH(BARB(LEFT(BESIDE(DOWNWARDS(HARPOON(WITH(BARB(RIGHT))))",
  "UPWARDS(HARPOON(WITH(BARB(RIGHT))))) FROM(BAR) TO(BAR)) LEFTWARDS RIGHT(FROM(BAR) TO(BAR))",
  "RIGHTWARDS))) HEAVY(ARROW COMPRESSED(ARROW)) PAIRED(ARROWS) QUADRUPLE(ARROW) ROCKET",
  "SANS-SERIF(ARROW) SQUARED(ARROW) TRIANGLE(ARROWHEAD) TRIANGLE-HEADED(ARROW(*",
  "LEFTWARDS(OF(UPWARDS(TRIANGLE-HEADED(ARROW)))) TO(BAR) WITH(BOLD(SHAFT)",
  "DOUBLE(HORIZONTAL(STROKE)) HEAVY(SHAFT) LONG(TIP(LEFTWARDS RIGHTWARDS)) MEDIUM(SHAFT)",
  "NARROW(SHAFT) VERY(HEAVY(SHAFT)))) DASHED(ARROW) PAIRED(ARROWS) ZIGZAG(ARROW)) TRIPLE(ARROW)",
  "TWO(HEADED(ARROW)) TWO-HEADED(ARROW(WITH(TRIANGLE(ARROWHEADS)))) WHITE(ARROW(*",
  "WITHIN(TRIANGLE(ARROWHEAD)))) ZIGZAG(ARROW)) DRACHMA(SIGN) DRAFTING(POINT(RIGHTWARDS(ARROW)))",
  "DRAGON(* FACE) DRESS DRIVE(SLOW(SIGN)) DROMEDARY(CAMEL) DROOLING(FACE) DROP(OF(BLOOD))",
  "DROPLET DRUM(WITH(DRUMSTICKS)) DUCK DUMPLING DUPLOYAN(AFFIX(ATTACHED(E(HOOK) I(HOOK)",
  "LEFT-TO-RIGHT(SECANT) SECANT TAIL TANGENT(* HOOK)) HIGH(ACUTE CIRCLE DOT GRAVE LINE",
  "LONG(GRAVE) TIGHT(ACUTE) VERTICAL(* SECANT) WAVE) LEFT(HORIZONTAL(SECANT)) LOW(ACUTE ARROW",
  "CIRCLE DOT GRAVE LINE LONG(GRAVE) TIGHT(ACUTE) VERTICAL(* SECANT) WAVE)",
  "MID(HORIZONTAL(SECANT) VERTICAL(SECANT)) RIGHT(HORIZONTAL(SECANT))) DOUBLE(MARK) LETTER(A AOU",
  "B D(* S) DH E EE EU F(* N) G(* R(S)) H HL I IE J(* M(* S) N(* S) S(* WITH(DOT)) WITH(DOT",
  "DOTS(INSIDE(AND(ABOVE))))) K(* M R(S)) KK L LH LONG(I U) M(* N(* S) S WITH(DOT)) N(* M(* S) S",
  "WITH(DOT)) NASAL(A I O U) O OA OOH OU OW P(* N) PERNIN(AM AN) R(* S) RH ROMANIAN(I U) S(* J(*",
  "S) K(* R) M N P(* R) S T(* R) WITH(DOT(* BELOW))) SHORT(I) SLOAN(AN DH EE EH EN J ON OW U)",
  "T(* R(S) S) TH U(* N) UH UI V VOCALIC(M) W(* R) WA WEI WH WI WO WOW X XW YE)",
  "PUNCTUATION(CHINOOK(FULL(STOP))) SIGN(O(WITH(CROSS))) THICK(LETTER(SELECTOR))) DVD"]

/-- The names that start with E. -/
def characterNamesE : List String := [
  "E-MAIL(SYMBOL) EAGLE EAR(* OF(MAIZE RICE) WITH(HEARING(AID))) EARTH(* GLOBE(AMERICAS",
  "ASIA-AUSTRALIA EUROPE-AFRICA) GROUND) EAST(SYRIAC(CROSS)) EDITORIAL(CORONIS) EGG",
  "EGYPTIAN(HIEROGLYPH(A001 A002 A003 A004 A005 A005A A006 A006A A006B A007 A008 A009 A010 A011",
  "A012 A013 A014 A014A A015 A016 A017 A017A A018 A019 A020 A021 A022 A023 A024 A025 A026 A027",
  "A028 A029 A030 A031 A032 A032A A033 A034 A035 A036 A037 A038 A039 A040 A040A A041 A042 A042A",
  "A043 A043A A044 A045 A045A A046 A047 A048 A049 A050 A051 A052 A053 A054 A055 A056 A057 A058",
  "A059 A060 A061 A062 A063 A064 A065 A066 A067 A068 A069 A070 AA001 AA002 AA003 AA004 AA005",
  "AA006 AA007 AA007A AA007B AA008 AA009 AA010 AA011 AA012 AA013 AA014 AA015 AA016 AA017 AA018",
  "AA019 AA020 AA021 AA022 AA023 AA024 AA025 AA026 AA027 AA028 AA029 AA030 AA031 AA032 B001 B002",
  "B003 B004 B005 B005A B006 B007 B008 B009 BEGIN(SEGMENT) C001 C002 C002A C002B C002C C003 C004",
  "C005 C006 C007 C008 C009 C010 C010A C011 C012 C013 C014 C015 C016 C017 C018 C019 C020 C021",
  "C022 C023 C024 D001 D002 D003 D004 D005 D006 D007 D008 D008A D009 D010 D011 D012 D013 D014",
  "D015 D016 D017 D018 D019 D020 D021 D022 D023 D024 D025 D026 D027 D027A D028 D029 D030 D031",
  "D031A D032 D033 D034 D034A D035 D036 D037 D038 D039 D040 D041 D042 D043 D044 D045 D046 D046A",
  "D047 D048 D048A D049 D050 D050A D050B D050C D050D D050E D050F D050G D050H D050I D051 D052",
  "D052A D053 D054 D054A D055 D056 D057 D058 D059 D060 D061 D062 D063 D064 D065 D066 D067 D067A",
  "D067B D067C D067D D067E D067F D067G D067H E001 E002 E003 E004 E005 E006 E007 E008 E008A E009",
  "E009A E010 E011 E012 E013 E014 E015 E016 E016A E017 E017A E018 E019 E020 E020A E021 E022 E023",
  "E024 E025 E026 E027 E028 E028A E029 E030 E031 E032 E033 E034 E034A E036 E037 E038",
  "END(SEGMENT) F001 F001A F002 F003 F004 F005 F006 F007 F008 F009 F010 F011 F012 F013 F013A",
  "F014 F015 F016 F017 F018 F019 F020 F021 F021A F022 F023 F024 F025 F026 F027 F028 F029 F030",
  "F031 F031A F032 F033 F034 F035 F036 F037 F037A F038 F038A F039 F040 F041 F042 F043 F044 F045",
  "F045A F046 F046A F047 F047A F048 F049 F050 F051 F051A F051B F051C F052 F053 G001 G002 G003",
  "G004 G005 G006 G006A G007 G007A G007B G008 G009 G010 G011 G011A G012 G013 G014 G015 G016 G017",
  "G018 G019 G020 G020A G021 G022 G023 G024 G025 G026 G026A G027 G028 G029 G030 G031 G032 G033",
  "G034 G035 G036 G036A G037 G037A G038 G039 G040 G041 G042 G043 G043A G044 G045 G045A G046 G047",
  "G048 G049 G050 G051 G052 G053 G054 H001 H002 H003 H004 H005 H006 H006A H007 H008",
  "HORIZONTAL(JOINER) I001 I002 I003 I004 I005 I005A I006 I007 I008 I009 I009A I010 I010A I011",
  "I011A I012 I013 I014 I015 INSERT(AT(BOTTOM(END START) TOP(END START))) K001 K002 K003 K004",
  "K005 K006 K007 K008 L001 L002 L002A L003 L004 L005 L006 L006A L007 L008 M001 M001A M001B M002",
  "M003 M003A M004 M005 M006 M007 M008 M009 M010 M010A M011 M012 M012A M012B M012C M012D M012E",
  "M012F M012G M012H M013 M014 M015 M015A M016 M016A M017 M017A M018 M019 M020 M021 M022 M022A",
  "M023 M024 M024A M025 M026 M027 M028 M028A M029 M030 M031 M031A M032 M033 M033A M033B M034",
  "M035 M036 M037 M038 M039 M040 M040A M041 M042 M043 M044 N001 N002 N003 N004 N005 N006 N007",
  "N008 N009 N010 N011 N012 N013 N014 N015 N016 N017 N018 N018A N018B N019 N020 N021 N022 N023",
  "N024 N025 N025A N026 N027 N028 N029 N030 N031 N032 N033 N033A N034 N034A N035 N035A N036 N037",
  "N037A N038 N039 N040 N041 N042 NL001 NL002 NL003 NL004 NL005 NL005A NL006 NL007 NL008 NL009",
  "NL010 NL011 NL012 NL013 NL014 NL015 NL016 NL017 NL017A NL018 NL019 NL020 NU001 NU002 NU003",
  "NU004 NU005 NU006 NU007 NU008 NU009 NU010 NU010A NU011 NU011A NU012 NU013 NU014 NU015 NU016",
  "NU017 NU018 NU018A NU019 NU020 NU021 NU022 NU022A O001 O001A O002 O003 O004 O005 O005A O006",
  "O006A O006B O006C O006D O006E O006F O007 O008 O009 O010 O010A O010B O010C O011 O012 O013 O014",
  "O015 O016 O017 O018 O019 O019A O020 O020A O021 O022 O023 O024 O024A O025 O025A O026 O027 O028",
  "O029 O029A O030 O030A O031 O032 O033 O033A O034 O035 O036 O036A O036B O036C O036D O037 O038",
  "O039 O040 O041 O042 O043 O044 O045 O046 O047 O048 O049 O050 O050A O050B O051 OVERLAY(MIDDLE)",
  "P001 P001A P002 P003 P003A P004 P005 P006 P007 P008 P009 P010 P011 Q001 Q002 Q003 Q004 Q005",
  "Q006 Q007 R001 R002 R002A R003 R003A R003B R004 R005 R006 R007 R008 R009 R010 R010A R011 R012",
  "R013 R014 R015 R016 R016A R017 R018 R019 R020 R021 R022 R023 R024 R025 R026 R027 R028 R029",
  "S001 S002 S002A S003 S004 S005 S006 S006A S007 S008 S009 S010 S011 S012 S013 S014 S014A S014B",
  "S015 S016 S017 S017A S018 S019 S020 S021 S022 S023 S024 S025 S026 S026A S026B S027 S028 S029",
  "S030 S031 S032 S033 S034 S035 S035A S036 S037 S038 S039 S040 S041 S042 S043 S044 S045 S046",
  "T001 T002 T003 T003A T004 T005 T006 T007 T007A T008 T008A T009 T009A T010 T011 T011A T012",
  "T013 T014 T015 T016 T016A T017 T018 T019 T020 T021 T022 T023 T024 T025 T026 T027 T028 T029",
  "T030 T031 T032 T032A T033 T033A T034 T035 T036 U001 U002 U003 U004 U005 U006 U006A U006B U007",
  "U008 U009 U010 U011 U012 U013 U014 U015 U016 U017 U018 U019 U020 U021 U022 U023 U023A U024",
  "U025 U026 U027 U028 U029 U029A U030 U031 U032 U032A U033 U034 U035 U036 U037 U038 U039 U040",
  "U041 U042 V001 V001A V001B V001C V001D V001E V001F V001G V001H V001I V002 V002A V003 V004",
  "V005 V006 V007 V007A V007B V008 V009 V010 V011 V011A V011B V011C V012 V012A V012B V013 V014",
  "V015 V016 V017 V018 V019 V020 V020A V020B V020C V020D V020E V020F V020G V020H V020I V020J",
  "V020K V020L V021 V022 V023 V023A V024 V025 V026 V027 V028 V028A V029 V029A V030 V030A V031",
  "V031A V032 V033 V033A V034 V035 V036 V037 V037A V038 V039 V040 V040A VERTICAL(JOINER) W001",
  "W002 W003 W003A W004 W005 W006 W007 W008 W009 W009A W010 W010A W011 W012 W013 W014 W014A W015",
  "W016 W017 W017A W018 W018A W019 W020 W021 W022 W023 W024 W024A W025 X001 X002 X003 X004 X004A",
  "X004B X005 X006 X006A X007 X008 X008A Y001 Y001A Y002 Y003 Y004 Y005 Y006 Y007 Y008 Z001 Z002",
  "Z002A Z002B Z002C Z002D Z003 Z003A Z003B Z004 Z004A Z005 Z005A Z006 Z007 Z008 Z009 Z010 Z011",
  "Z012 Z013 Z014 Z015 Z015A Z015B Z015C Z015D Z015E Z015F Z015G Z015H Z015I Z016 Z016A Z016B",
  "Z016C Z016D Z016E Z016F Z016G Z016H)) EIGHT(PETALLED(OUTLINED(BLACK(FLORETTE)))",
  "POINTED(BLACK(STAR) PINWHEEL(STAR) RECTILINEAR(BLACK(STAR))) SPOKED(ASTERISK)",
  "TEARDROP-SPOKED(PROPELLER(ASTERISK))) EIGHTH(NOTE) EJECT(SYMBOL) ELBASAN(LETTER(A BE CE CHE",
  "DE DHE E EI FE GE GHAMMA GHE GJE HE I JE KE KHE LE LLE ME NA NDE NE NJE O PE QE RE RRE SE SHE",
  "TE THE U VE XE Y ZE ZHE)) ELECTRIC(ARROW LIGHT(BULB) PLUG TORCH) ELECTRICAL(INTERSECTION)",
  "ELEMENT(OF(* OPENING(DOWNWARDS UPWARDS) WITH(DOT(ABOVE) LONG(HORIZONTAL(STROKE)) OVERBAR",
  "TWO(HORIZONTAL(STROKES)) UNDERBAR VERTICAL(BAR(AT(END(OF(HORIZONTAL(STROKE))))))))) ELEPHANT",
  "ELEVATOR ELF ELYMAIC(LETTER(ALEPH AYIN BETH DALETH GIMEL HE HETH KAPH LAMEDH MEM NUN PE QOPH",
  "RESH SADHE SAMEKH SHIN TAW TETH WAW YODH ZAYIN) LIGATURE(ZAYIN-YODH)) EM(DASH QUAD SPACE)",
  "EMOJI(COMPONENT(BALD CURLY(HAIR) RED(HAIR) WHITE(HAIR)) MODIFIER(FITZPATRICK(TYPE-1-2 TYPE-3",
  "TYPE-4 TYPE-5 TYPE-6))) EMPHASIS(SYMBOL) EMPTY(DOCUMENT NEST NOTE(* PAD PAGE) PAGE PAGES",
  "SET(* WITH(LEFT(ARROW(ABOVE)) OVERBAR RIGHT(ARROW(ABOVE)) SMALL(CIRCLE(ABOVE))))) EN(DASH",
  "QUAD SPACE) END(OF(GUARDED(AREA) LINE MEDIUM PROOF PROTECTED(AREA) SELECTED(AREA) TEXT",
  "TRANSMISSION(* BLOCK)) WITH(LEFTWARDS(ARROW(ABOVE)))) ENQ ENQUIRY ENTER(SYMBOL) ENVELOPE(*",
  "WITH(DOWNWARDS(ARROW(ABOVE)) LIGHTNING)) EOL EOM EOT EPA EQUAL(AND(PARALLEL(TO))",
  "TO(BY(DEFINITION) OR(GREATER-THAN LESS-THAN PRECEDES SUCCEEDS))) EQUALS(COLON SIGN(*",
  "ABOVE(LEFTWARDS(ARROW) PLUS(SIGN) RIGHTWARDS(ARROW) TILDE(OPERATOR)) AND(SLANTED(PARALLEL(*",
  "WITH(TILDE(ABOVE))))) WITH(BUMPY(ABOVE) DOT(BELOW) INFINITY(BELOW)",
  "TWO(DOTS(ABOVE(AND(TWO(DOTS(BELOW)))))))) WITH(ASTERISK)) EQUIANGULAR(TO) EQUIVALENT(TO",
  "WITH(FOUR(DOTS(ABOVE)))) ERASE(TO(THE(LEFT RIGHT))) ERIS(FORM(ONE TWO))",
  "ERROR-BARRED(BLACK(CIRCLE DIAMOND SQUARE) WHITE(CIRCLE DIAMOND SQUARE)) ESA ESC ESCAPE",
  "ESTIMATED(SYMBOL) ESTIMATES ETB ETHIOPIC(COLON COMBINING(GEMINATION(AND(VOWEL(LENGTH(MARK)))",
  "MARK) VOWEL(LENGTH(MARK))) COMMA DIGIT(EIGHT FIVE FOUR NINE ONE SEVEN SIX THREE TWO)",
  "FULL(STOP) NUMBER(EIGHTY FIFTY FORTY HUNDRED NINETY SEVENTY SIXTY TEN(* THOUSAND) THIRTY",
  "TWENTY) PARAGRAPH(SEPARATOR) PREFACE(COLON) QUESTION(MARK) SECTION(MARK) SEMICOLON",
  "SYLLABLE(BA BAA BBA BBAA BBE BBEE BBI BBO BBU BE BEE BI BO BOA BU BWA BWE BWEE BWI CA CAA CCA",
  "CCAA CCE CCEE CCHA CCHAA CCHE CCHEE CCHHA CCHHAA CCHHE CCHHEE CCHHI CCHHO CCHHU CCHI CCHO",
  "CCHU CCI CCO CCU CE CEE CHA CHAA CHE CHEE CHI CHO CHOA CHU CHWA CI CO COA CU CWA DA DAA DDA",
  "DDAA DDE DDEE DDHAA DDHE DDHEE DDHI DDHO DDHU DDI DDO DDOA DDU DDWA DE DEE DI DO DOA DU DWA",
  "DZAA DZE DZEE DZI DZO DZU FA FAA FE FEE FI FO FU FWA FWE FWEE FWI FYA GA GAA GE GEE GGA GGAA",
  "GGE GGEE GGI GGO GGU GGWA GGWAA GGWE GGWEE GGWI GI GLOTTAL(A AA E EE I O OA U WA) GO GOA GU",
  "GURAGE(BWEE BWI FWEE FWI GWE GWEE GWI HHWA KWE KWEE KWI MWEE MWI PWEE PWI QWE QWEE QWI) GWA",
  "GWAA GWE GWEE GWI GYA GYAA GYE GYEE GYI GYO GYU HA HAA HE HEE HHA HHAA HHE HHEE HHI HHO HHU",
  "HHWA HHWE HHWEE HHWI HHYA HHYAA HHYE HHYEE HHYI HHYO HHYU HI HO HOA HU JA JAA JE JEE JI JO",
  "JOA JU JWA KA KAA KE KEE KI KO KOA KU KWA KWAA KWE KWEE KWI KXA KXAA KXE KXEE KXI KXO KXU",
  "KXWA KXWAA KXWE KXWEE KXWI KYA KYAA KYE KYEE KYI KYO KYU LA LAA LE LEE LI LO LOA LU LWA MA",
  "MAA ME MEE MI MO MOA MU MWA MWE MWEE MWI MYA NA NAA NE NEE NI NO NOA NU NWA NYA NYAA NYE NYEE",
  "NYI NYO NYOA NYU NYWA PA PAA PE PEE PHA PHAA PHARYNGEAL(A AA E EE I O U) PHE PHEE PHI PHO",
  "PHOA PHU PHWA PI PO POA PU PWA PWE PWEE PWI QA QAA QE QEE QHA QHAA QHE QHEE QHI QHO QHU QHWA",
  "QHWAA QHWE QHWEE QHWI QI QO QOA QU QWA QWAA QWE QWEE QWI QYA QYAA QYE QYEE QYI QYO QYU RA RAA",
  "RE REE RI RO ROA RU RWA RYA SA SAA SE SEBATBEIT(BWA FWA MWA PWA) SEE SHA SHAA SHE SHEE SHI",
  "SHO SHOA SHU SHWA SI SO SOA SSA SSAA SSE SSEE SSI SSO SSU SU SWA SZA SZAA SZE SZEE SZI SZO",
  "SZU SZWA TA TAA TE TEE THA THAA THE THEE THI THO THOA THU THWA TI TO TOA TSA TSAA TSE TSEE",
  "TSI TSO TSU TSWA TTHAA TTHE TTHEE TTHI TTHO TTHU TU TWA TZA TZAA TZE TZEE TZI TZO TZOA TZU VA",
  "VAA VE VEE VI VO VU VWA WA WAA WE WEE WI WO WOA WU XA XAA XE XEE XI XO XOA XU XWA XWAA XWE",
  "XWEE XWI XYA XYAA XYE XYEE XYI XYO XYU YA YAA YE YEE YI YO YOA YU ZA ZAA ZE ZEE ZHA ZHAA ZHE",
  "ZHEE ZHI ZHO ZHU ZHWA ZI ZO ZOA ZU ZWA ZZA ZZAA ZZE ZZEE ZZI ZZO ZZU) TONAL(MARK(CHIRET DERET",
  "DERET-HIDET DIFAT HIDET KENAT KURT RIKRIK SHORT(RIKRIK) YIZET)) WORDSPACE) ETX",
  "EULER(CONSTANT) EURO(SIGN) EURO-CURRENCY(SIGN) EUROPEAN(CASTLE POST(OFFICE)) EVERGREEN(TREE)",
  "EXCESS EXCLAMATION(MARK QUESTION(MARK)) EXPRESSIONLESS(FACE)",
  "EXTENDED(ARABIC-INDIC(DIGIT(EIGHT FIVE FOUR NINE ONE SEVEN SIX THREE TWO ZERO)))",
  "EXTRATERRESTRIAL(ALIEN) EXTREMELY(HEAVY(FIVE(SPOKED(ASTERISK)) GREEK(CROSS) SALTIRE",
  "SIX(SPOKED(ASTERISK)) WHITE(CIRCLE SQUARE))) EYE EYEGLASSES EYES"]

/-- The names that start with F. -/
def characterNamesF : List String := [
  "FACE(HOLDING(BACK(TEARS)) MASSAGE PALM SAVOURING(DELICIOUS(FOOD)) SCREAMING(IN(FEAR))",
  "THROWING(A(KISS)) WITH(COLD(SWEAT) COWBOY(HAT) DIAGONAL(MOUTH) FINGER(COVERING(CLOSED(LIPS)))",
  "HEAD-BANDAGE LOOK(OF(TRIUMPH)) MEDICAL(MASK) MONOCLE NO(GOOD(GESTURE)) OK(GESTURE)",
  "ONE(EYEBROW(RAISED)) OPEN(EYES(AND(HAND(OVER(MOUTH)))) MOUTH(* AND(COLD(SWEAT)) VOMITING))",
  "PARTY(HORN(AND(PARTY(HAT)))) PEEKING(EYE) PLEADING(EYES) ROLLING(EYES) STUCK-OUT(TONGUE(*",
  "AND(TIGHTLY-CLOSED(EYES) WINKING(EYE)))) TEARS(OF(JOY)) THERMOMETER",
  "UNEVEN(EYES(AND(WAVY(MOUTH))))) WITHOUT(MOUTH)) FACSIMILE(SIGN) FACTORY FAIRY FALAFEL",
  "FALLEN(LEAF) FALLING(DIAGONAL(CROSSING(NORTH(EAST(ARROW)) RISING(DIAGONAL))",
  "IN(WHITE(CIRCLE(IN(BLACK(SQUARE))))))) FAMILY FARSI(SYMBOL) FATHER(CHRISTMAS) FAX(ICON",
  "MACHINE) FEARFUL(FACE) FEATHER FEMALE(SIGN) FEMININE(ORDINAL(INDICATOR)) FENCER FERRIS(WHEEL)",
  "FERRY FF FIELD(HOCKEY(STICK(AND(BALL)))) FIGURE(DASH SPACE) FILE(CABINET FOLDER SEPARATOR)",
  "FILM(FRAMES PROJECTOR) FINITE(PART(INTEGRAL)) FIRE(* ENGINE EXTINGUISHER) FIRECRACKER",
  "FIREWORK(SPARKLER) FIREWORKS FIRST(PLACE(MEDAL) QUARTER(MOON(* SYMBOL WITH(FACE)))",
  "STRONG(ISOLATE)) FISH(* CAKE(WITH(SWIRL(DESIGN)))) FISHEYE FISHING(POLE(AND(FISH)))",
  "FISTED(HAND(SIGN)) FIVE(DOT(MARK PUNCTUATION)) FLAG(IN(HOLE)) FLAMINGO FLAT(SHOE) FLATBREAD",
  "FLATNESS FLEUR-DE-LIS FLEXED(BICEPS) FLOPPY(DISK) FLORAL(HEART) FLOWER(* PLAYING(CARDS)",
  "PUNCTUATION(MARK)) FLUSHED(FACE) FLY FLYING(DISC ENVELOPE SAUCER) FOG FOGGY FOLDER FONDUE",
  "FOOT FOOTPRINTS FOR(ALL) FORCES FORK(AND(KNIFE(* WITH(PLATE)))) FORKED(PARAGRAPHOS) FORKING",
  "FORM(FEED) FORTUNE(COOKIE) FOUNTAIN FOUR(BALLOON-SPOKED(ASTERISK) CLUB-SPOKED(ASTERISK)",
  "CORNER(ARROWS(CIRCLING(ANTICLOCKWISE))) DOT(MARK PUNCTUATION) LEAF(CLOVER)",
  "POINTED(BLACK(STAR)) TEARDROP-SPOKED(ASTERISK)) FOUR-PER-EM(SPACE) FOURTH(ROOT) FOX(FACE)",
  "FRACTION(NUMERATOR(ONE) SLASH) FRAME(WITH(AN(X) PICTURE TILES)) FREEZING(FACE)",
  "FRENCH(FRANC(SIGN) FRIES) FRIED(SHRIMP) FROG(FACE) FRONT-FACING(BABY(CHICK))",
  "FRONT-TILTED(SHADOWED(WHITE(RIGHTWARDS(ARROW)))) FROWN FROWNING(FACE(WITH(OPEN(MOUTH)))) FS",
  "FSI FUEL(PUMP) FULL(BLOCK MOON(SYMBOL WITH(FACE)) OUTER(JOIN) STOP) FULLWIDTH(AMPERSAND",
  "APOSTROPHE ASTERISK BROKEN(BAR) CENT(SIGN) CIRCUMFLEX(ACCENT) COLON COMMA COMMERCIAL(AT)",
  "DIGIT(EIGHT FIVE FOUR NINE ONE SEVEN SIX THREE TWO ZERO) DOLLAR(SIGN) EQUALS(SIGN)",
  "EXCLAMATION(MARK) FULL(STOP) GRAVE(ACCENT) GREATER-THAN(SIGN) HYPHEN-MINUS",
  "LATIN(CAPITAL(LETTER(A B C D E F G H I J K L M N O P Q R S T U V W X Y Z)) SMALL(LETTER(A B C",
  "D E F G H I J K L M N O P Q R S T U V W X Y Z))) LEFT(CURLY(BRACKET) PARENTHESIS",
  "SQUARE(BRACKET) WHITE(PARENTHESIS)) LESS-THAN(SIGN) LOW(LINE) MACRON NOT(SIGN) NUMBER(SIGN)",
  "PERCENT(SIGN) PLUS(SIGN) POUND(SIGN) QUESTION(MARK) QUOTATION(MARK) REVERSE(SOLIDUS)",
  "RIGHT(CURLY(BRACKET) PARENTHESIS SQUARE(BRACKET) WHITE(PARENTHESIS)) SEMICOLON SOLIDUS TILDE",
  "VERTICAL(LINE) WON(SIGN) YEN(SIGN)) FUNCTION(APPLICATION) FUNERAL(URN) FUSE FVS1 FVS2 FVS3",
  "FVS4"]

/-- The names that start with G. -/
def characterNamesG : List String := [
  "GAME(DIE) GARLIC GEAR(* WITH(HANDLES) WITHOUT(HUB)) GEM(STONE) GEMINI GENIE",
  "GEOMETRIC(PROPORTION) GEOMETRICALLY(EQUAL(TO) EQUIVALENT(TO)) GEORGIAN(CAPITAL(LETTER(AEN AN",
  "BAN CAN CHAR CHIN CIL DON EN GAN GHAN HAE HAR HE HIE HOE IN JHAN JIL KAN KHAR LAS MAN NAR ON",
  "PAR PHAR QAR RAE SAN SHIN TAN TAR UN VIN WE XAN YN ZEN ZHAR)) LETTER(AEN AIN AN BAN CAN CHAR",
  "CHIN CIL DON ELIFI EN FI GAN GHAN HAE HAR HARD(SIGN) HE HIE HOE IN JHAN JIL KAN KHAR",
  "LABIAL(SIGN) LAS MAN NAR ON PAR PHAR QAR RAE SAN SHIN TAN TAR TURNED(GAN) UN VIN WE XAN YN",
  "ZEN ZHAR) MTAVRULI(CAPITAL(LETTER(AEN AIN AN BAN CAN CHAR CHIN CIL DON ELIFI EN FI GAN GHAN",
  "HAE HAR HARD(SIGN) HE HIE HOE IN JHAN JIL KAN KHAR LABIAL(SIGN) LAS MAN NAR ON PAR PHAR QAR",
  "RAE SAN SHIN TAN TAR TURNED(GAN) UN VIN WE XAN YN ZEN ZHAR))) PARAGRAPH(SEPARATOR)",
  "SMALL(LETTER(AEN AN BAN CAN CHAR CHIN CIL DON EN GAN GHAN HAE HAR HE HIE HOE IN JHAN JIL KAN",
  "KHAR LAS MAN NAR ON PAR PHAR QAR RAE SAN SHIN TAN TAR UN VIN WE XAN YN ZEN ZHAR)))",
  "GERMAN(PENNY(SIGN)) GETA(MARK) GHOST GIMEL(SYMBOL) GIRAFFE(FACE) GIRL GIRLS(SYMBOL)",
  "GLAGOLITIC(CAPITAL(LETTER(AZU BIG(YUS) BUKY CAUDATE(CHRIVI) CHRIVI DJERVI DOBRO DZELO FITA",
  "FRITU GLAGOLI HERU I INITIAL(IZHE) IOTATED(BIG(YUS) SMALL(YUS)) IZHE IZHITSA KAKO",
  "LATINATE(MYSLITE) LJUDIJE MYSLITE NASHI ONU OTU PE POKOJI RITSI SHA SHTA SHTAPIC SLOVO",
  "SMALL(YUS(* WITH(TAIL))) SPIDERY(HA) TROKUTASTI(A) TSI TVRIDO UKU VEDE YATI YERI YERU YESTU",
  "YO YU ZEMLJA ZHIVETE)) SMALL(LETTER(AZU BIG(YUS) BUKY CAUDATE(CHRIVI) CHRIVI DJERVI DOBRO",
  "DZELO FITA FRITU GLAGOLI HERU I INITIAL(IZHE) IOTATED(BIG(YUS) SMALL(YUS)) IZHE IZHITSA KAKO",
  "LATINATE(MYSLITE) LJUDIJE MYSLITE NASHI ONU OTU PE POKOJI RITSI SHA SHTA SHTAPIC SLOVO",
  "SMALL(YUS(* WITH(TAIL))) SPIDERY(HA) TROKUTASTI(A) TSI TVRIDO UKU VEDE YATI YERI YERU YESTU",
  "YO YU ZEMLJA ZHIVETE))) GLASS(OF(MILK)) GLEICH(STARK) GLOBE(WITH(MERIDIANS)) GLOVES",
  "GLOWING(STAR) GOAL(NET) GOAT GOGGLES GOLFER GORILLA GOTHIC(LETTER(AHSA AIHVUS BAIRKAN DAGS",
  "EIS FAIHU GIBA HAGL HWAIR IGGWS IUJA JER KUSMA LAGUS MANNA NAUTHS NINE(HUNDRED) NINETY OTHAL",
  "PAIRTHRA QAIRTHRA RAIDA SAUIL TEIWS THIUTH URUS WINJA)) GRADUATION(CAP)",
  "GRANTHA(AU(LENGTH(MARK)) LETTER(A AA AI AU BA BHA CA CHA DA DDA DDHA DHA EE GA GHA HA I II JA",
  "JHA KA KHA LA LLA MA NA NGA NNA NYA OO PA PHA RA SA SHA SSA TA THA TTA TTHA U UU VA",
  "VEDIC(ANUSVARA DOUBLE(ANUSVARA)) VOCALIC(L LL R RR) YA) OM SIGN(ANUSVARA AVAGRAHA CANDRABINDU",
  "COMBINING(ANUSVARA(ABOVE)) NUKTA PLUTA VIRAMA VISARGA) VOWEL(SIGN(AA AI AU EE I II OO U UU",
  "VOCALIC(L LL R RR)))) GRAPES GRAVE(ACCENT)",
  "GREATER-THAN(ABOVE(DOUBLE-LINE(EQUAL(ABOVE(LESS-THAN))) LESS-THAN(ABOVE(DOUBLE-LINE(EQUAL)))",
  "RIGHTWARDS(ARROW) SIMILAR(ABOVE(LESS-THAN) OR(EQUAL))",
  "SLANTED(EQUAL(ABOVE(LESS-THAN(ABOVE(SLANTED(EQUAL))))))) AND(NOT(APPROXIMATE)",
  "SINGLE-LINE(NOT(EQUAL(TO)))) BESIDE(LESS-THAN) BUT(NOT(EQUAL(TO) EQUIVALENT(TO)))",
  "CLOSED(BY(CURVE(* ABOVE(SLANTED(EQUAL))))) EQUAL(TO(OR(LESS-THAN))) OR(APPROXIMATE EQUAL(TO)",
  "EQUIVALENT(TO) LESS-THAN SLANTED(EQUAL(TO(* WITH(DOT(ABOVE(* LEFT) INSIDE))))))",
  "OVER(EQUAL(TO)) OVERLAPPING(LESS-THAN) SIGN WITH(CIRCLE(INSIDE) DOT QUESTION(MARK(ABOVE))))",
  "GREEK(ACROPHONIC(ATTIC(FIFTY(* STATERS TALENTS THOUSAND(* STATERS)) FIVE(* HUNDRED(* STATERS",
  "TALENTS) STATERS TALENTS THOUSAND(* TALENTS)) ONE(DRACHMA HALF HUNDRED(STATERS TALENTS)",
  "QUARTER THOUSAND(STATERS TALENTS)) TEN(MNAS STATERS TALENTS THOUSAND(STATERS)))",
  "CARYSTIAN(FIVE(HUNDRED)) CYRENAIC(TWO(DRACHMAS)) DELPHIC(FIVE(MNAS)) EPIDAUREAN(FIVE(HUNDRED)",
  "TWO(* DRACHMAS)) HERAEUM(ONE(PLETHRON)) HERMIONIAN(FIFTY ONE TEN) MESSENIAN(TEN)",
  "NAXIAN(FIVE(HUNDRED)) STRATIAN(FIFTY(MNAS)) THESPIAN(FIFTY FIVE(HUNDRED THOUSAND) ONE(*",
  "HUNDRED THOUSAND) TEN THIRTY THREE(HUNDRED) TWO) TROEZENIAN(FIFTY(* ALTERNATE(FORM)) FIVE(*",
  "HUNDRED) TEN(* ALTERNATE(FORM)))) ANO(TELEIA) AROURA(SIGN) ARTABE(SIGN) BETA(SYMBOL)",
  "CAPITAL(DOTTED(LUNATE(SIGMA(SYMBOL))) KAI(SYMBOL) LETTER(ALPHA(* WITH(DASIA(* AND(OXIA(*",
  "AND(PROSGEGRAMMENI)) PERISPOMENI(* AND(PROSGEGRAMMENI)) PROSGEGRAMMENI VARIA(*",
  "AND(PROSGEGRAMMENI)))) MACRON OXIA PROSGEGRAMMENI PSILI(* AND(OXIA(* AND(PROSGEGRAMMENI))",
  "PERISPOMENI(* AND(PROSGEGRAMMENI)) PROSGEGRAMMENI VARIA(* AND(PROSGEGRAMMENI)))) TONOS VARIA",
  "VRACHY)) ARCHAIC(SAMPI) BETA CHI DELTA EPSILON(* WITH(DASIA(* AND(OXIA VARIA)) OXIA PSILI(*",
  "AND(OXIA VARIA)) TONOS VARIA)) ETA(* WITH(DASIA(* AND(OXIA(* AND(PROSGEGRAMMENI))",
  "PERISPOMENI(* AND(PROSGEGRAMMENI)) PROSGEGRAMMENI VARIA(* AND(PROSGEGRAMMENI)))) OXIA",
  "PROSGEGRAMMENI PSILI(* AND(OXIA(* AND(PROSGEGRAMMENI)) PERISPOMENI(* AND(PROSGEGRAMMENI))",
  "PROSGEGRAMMENI VARIA(* AND(PROSGEGRAMMENI)))) TONOS VARIA)) GAMMA HETA IOTA(* WITH(DASIA(*",
  "AND(OXIA PERISPOMENI VARIA)) DIALYTIKA MACRON OXIA PSILI(* AND(OXIA PERISPOMENI VARIA)) TONOS",
  "VARIA VRACHY)) KAPPA LAMDA MU NU OMEGA(* WITH(DASIA(* AND(OXIA(* AND(PROSGEGRAMMENI))",
  "PERISPOMENI(* AND(PROSGEGRAMMENI)) PROSGEGRAMMENI VARIA(* AND(PROSGEGRAMMENI)))) OXIA",
  "PROSGEGRAMMENI PSILI(* AND(OXIA(* AND(PROSGEGRAMMENI)) PERISPOMENI(* AND(PROSGEGRAMMENI))",
  "PROSGEGRAMMENI VARIA(* AND(PROSGEGRAMMENI)))) TONOS VARIA)) OMICRON(* WITH(DASIA(* AND(OXIA",
  "VARIA)) OXIA PSILI(* AND(OXIA VARIA)) TONOS VARIA)) PAMPHYLIAN(DIGAMMA) PHI PI PSI RHO(*",
  "WITH(DASIA)) SAN SHO SIGMA TAU THETA UPSILON(* WITH(DASIA(* AND(OXIA PERISPOMENI VARIA))",
  "DIALYTIKA MACRON OXIA TONOS VARIA VRACHY)) XI YOT ZETA) LUNATE(SIGMA(SYMBOL))",
  "REVERSED(DOTTED(LUNATE(SIGMA(SYMBOL))) LUNATE(SIGMA(SYMBOL))) THETA(SYMBOL)) DASIA(* AND(OXIA",
  "PERISPOMENI VARIA)) DIALYTIKA(AND(OXIA PERISPOMENI VARIA) TONOS) DRACHMA(SIGN)",
  "FIVE(OBOLS(SIGN)) FOUR(OBOLS(SIGN)) GRAMMA(SIGN) INDICTION(SIGN)",
  "INSTRUMENTAL(NOTATION(SYMBOL-1 SYMBOL-11 SYMBOL-12 SYMBOL-13 SYMBOL-14 SYMBOL-17 SYMBOL-18",
  "SYMBOL-19 SYMBOL-2 SYMBOL-23 SYMBOL-24 SYMBOL-25 SYMBOL-26 SYMBOL-27 SYMBOL-29 SYMBOL-30",
  "SYMBOL-32 SYMBOL-36 SYMBOL-37 SYMBOL-38 SYMBOL-39 SYMBOL-4 SYMBOL-40 SYMBOL-42 SYMBOL-43",
  "SYMBOL-45 SYMBOL-47 SYMBOL-48 SYMBOL-49 SYMBOL-5 SYMBOL-50 SYMBOL-51 SYMBOL-52 SYMBOL-53",
  "SYMBOL-54 SYMBOL-7 SYMBOL-8)) KAI(SYMBOL) KAPPA(SYMBOL) KORONIS KYATHOS(BASE(SIGN))",
  "LETTER(ARCHAIC(KOPPA) DIGAMMA KOPPA SAMPI SMALL(CAPITAL(GAMMA LAMDA OMEGA PI PSI RHO)) STIGMA",
  "YOT) LITRA(SIGN) LOWER(NUMERAL(SIGN)) LUNATE(EPSILON(SYMBOL) SIGMA(SYMBOL)) METRETES(SIGN)",
  "MUSICAL(LEIMMA) NUMERAL(SIGN) OBOL(SIGN) ONE(HALF(SIGN(* ALTERNATE(FORM))) QUARTER(SIGN))",
  "OUNKIA(SIGN) OXIA PERISPOMENI PHI(SYMBOL) PI(SYMBOL) PROSGEGRAMMENI PSILI(* AND(OXIA",
  "PERISPOMENI VARIA)) QUESTION(MARK) REVERSED(LUNATE(EPSILON(SYMBOL))) RHO(SYMBOL",
  "WITH(STROKE(SYMBOL))) SINUSOID(SIGN) SMALL(DOTTED(LUNATE(SIGMA(SYMBOL))) LETTER(ALPHA(*",
  "WITH(DASIA(* AND(OXIA(* AND(YPOGEGRAMMENI)) PERISPOMENI(* AND(YPOGEGRAMMENI)) VARIA(*",
  "AND(YPOGEGRAMMENI)) YPOGEGRAMMENI)) MACRON OXIA(* AND(YPOGEGRAMMENI)) PERISPOMENI(*",
  "AND(YPOGEGRAMMENI)) PSILI(* AND(OXIA(* AND(YPOGEGRAMMENI)) PERISPOMENI(* AND(YPOGEGRAMMENI))",
  "VARIA(* AND(YPOGEGRAMMENI)) YPOGEGRAMMENI)) TONOS VARIA(* AND(YPOGEGRAMMENI)) VRACHY",
  "YPOGEGRAMMENI)) ARCHAIC(KOPPA SAMPI) BETA CHI DELTA DIGAMMA EPSILON(* WITH(DASIA(* AND(OXIA",
  "VARIA)) OXIA PSILI(* AND(OXIA VARIA)) TONOS VARIA)) ETA(* WITH(DASIA(* AND(OXIA(*",
  "AND(YPOGEGRAMMENI)) PERISPOMENI(* AND(YPOGEGRAMMENI)) VARIA(* AND(YPOGEGRAMMENI))",
  "YPOGEGRAMMENI)) OXIA(* AND(YPOGEGRAMMENI)) PERISPOMENI(* AND(YPOGEGRAMMENI)) PSILI(*",
  "AND(OXIA(* AND(YPOGEGRAMMENI)) PERISPOMENI(* AND(YPOGEGRAMMENI)) VARIA(* AND(YPOGEGRAMMENI))",
  "YPOGEGRAMMENI)) TONOS VARIA(* AND(YPOGEGRAMMENI)) YPOGEGRAMMENI)) FINAL(SIGMA) GAMMA HETA",
  "IOTA(* WITH(DASIA(* AND(OXIA PERISPOMENI VARIA)) DIALYTIKA(* AND(OXIA PERISPOMENI TONOS",
  "VARIA)) MACRON OXIA PERISPOMENI PSILI(* AND(OXIA PERISPOMENI VARIA)) TONOS VARIA VRACHY))",
  "KAPPA KOPPA LAMDA MU NU OMEGA(* WITH(DASIA(* AND(OXIA(* AND(YPOGEGRAMMENI)) PERISPOMENI(*",
  "AND(YPOGEGRAMMENI)) VARIA(* AND(YPOGEGRAMMENI)) YPOGEGRAMMENI)) OXIA(* AND(YPOGEGRAMMENI))",
  "PERISPOMENI(* AND(YPOGEGRAMMENI)) PSILI(* AND(OXIA(* AND(YPOGEGRAMMENI)) PERISPOMENI(*",
  "AND(YPOGEGRAMMENI)) VARIA(* AND(YPOGEGRAMMENI)) YPOGEGRAMMENI)) TONOS VARIA(*",
  "AND(YPOGEGRAMMENI)) YPOGEGRAMMENI)) OMICRON(* WITH(DASIA(* AND(OXIA VARIA)) OXIA PSILI(*",
  "AND(OXIA VARIA)) TONOS VARIA)) PAMPHYLIAN(DIGAMMA) PHI PI PSI RHO(* WITH(DASIA PSILI)) SAMPI",
  "SAN SHO SIGMA STIGMA TAU THETA UPSILON(* WITH(DASIA(* AND(OXIA PERISPOMENI VARIA))",
  "DIALYTIKA(* AND(OXIA PERISPOMENI TONOS VARIA)) MACRON OXIA PERISPOMENI PSILI(* AND(OXIA",
  "PERISPOMENI VARIA)) TONOS VARIA VRACHY)) XI ZETA) REVERSED(DOTTED(LUNATE(SIGMA(SYMBOL)))",
  "LUNATE(SIGMA(SYMBOL)))) SUBSCRIPT(SMALL(LETTER(BETA CHI GAMMA PHI RHO))) SYMBOL(TAU(RHO))",
  "TALENT(SIGN) THETA(SYMBOL) THREE(OBOLS(SIGN) QUARTERS(SIGN)) TONOS TRYBLION(BASE(SIGN))",
  "TWO(OBOLS(SIGN) THIRDS(SIGN)) UPSILON(WITH(ACUTE(AND(HOOK(SYMBOL)))",
  "DIAERESIS(AND(HOOK(SYMBOL))) HOOK(SYMBOL))) VARIA VOCAL(NOTATION(SYMBOL-1 SYMBOL-10 SYMBOL-11",
  "SYMBOL-12 SYMBOL-13 SYMBOL-14 SYMBOL-15 SYMBOL-16 SYMBOL-17 SYMBOL-18 SYMBOL-19 SYMBOL-2",
  "SYMBOL-20 SYMBOL-21 SYMBOL-22 SYMBOL-23 SYMBOL-24 SYMBOL-3 SYMBOL-4 SYMBOL-5 SYMBOL-50",
  "SYMBOL-51 SYMBOL-52 SYMBOL-53 SYMBOL-54 SYMBOL-6 SYMBOL-7 SYMBOL-8 SYMBOL-9)) XESTES(SIGN)",
  "YEAR(SIGN) YPOGEGRAMMENI ZERO(SIGN)) GREEN(APPLE BOOK HEART SALAD) GRIMACING(FACE)",
  "GRINNING(CAT(FACE(WITH(SMILING(EYES)))) FACE(* WITH(ONE(LARGE(AND(ONE(SMALL(EYE)))))",
  "SMILING(EYES) STAR(EYES)))) GROUP(MARK SEPARATOR) GROWING(HEART) GS GUARANI(SIGN) GUARDSMAN",
  "GUIDE(DOG) GUITAR GUJARATI(ABBREVIATION(SIGN) DIGIT(EIGHT FIVE FOUR NINE ONE SEVEN SIX THREE",
  "TWO ZERO) LETTER(A AA AI AU BA BHA CA CHA DA DDA DDHA DHA E GA GHA HA I II JA JHA KA KHA LA",
  "LLA MA NA NGA NNA NYA O PA PHA RA SA SHA SSA TA THA TTA TTHA U UU VA VOCALIC(L LL R RR) YA",
  "ZHA) OM RUPEE(SIGN) SIGN(ANUSVARA AVAGRAHA CANDRABINDU CIRCLE(NUKTA(ABOVE)) MADDAH NUKTA",
  "SHADDA SUKUN THREE-DOT(NUKTA(ABOVE)) TWO-CIRCLE(NUKTA(ABOVE)) VIRAMA VISARGA) VOWEL(CANDRA(E",
  "O) SIGN(AA AI AU CANDRA(E O) E I II O U UU VOCALIC(L LL R RR)))) GUNJALA(GONDI(DIGIT(EIGHT",
  "FIVE FOUR NINE ONE SEVEN SIX THREE TWO ZERO) LETTER(A AA AI AU BA BHA CA CHA DA DDA DDHA DHA",
  "EE GA GHA HA I II JA JHA KA KHA LA LLA MA NA NGA OO PA PHA RA SA TA THA TTA TTHA U UU VA YA)",
  "OM SIGN(ANUSVARA VISARGA) VIRAMA VOWEL(SIGN(AA AI AU EE I II OO U UU))))",
  "GURMUKHI(ABBREVIATION(SIGN) ADDAK DIGIT(EIGHT FIVE FOUR NINE ONE SEVEN SIX THREE TWO ZERO)",
  "EK(ONKAR) IRI LETTER(A AA AI AU BA BHA CA CHA DA DDA DDHA DHA EE FA GA GHA GHHA HA I II JA",
  "JHA KA KHA KHHA LA LLA MA NA NGA NNA NYA OO PA PHA RA RRA SA SHA TA THA TTA TTHA U UU VA YA",
  "ZA) SIGN(ADAK(BINDI) BINDI NUKTA UDAAT VIRAMA VISARGA YAKASH) TIPPI URA VOWEL(SIGN(AA AI AU",
  "EE I II OO U UU)))"]

end RunOnce.Text
