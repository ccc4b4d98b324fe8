import PushGoals.Text.Ranges

/-!
# Scripts

The writing system a character belongs to.  Characters of several systems are
`Common` or `Inherited`, characters without a meaning `Unknown`.  The table is that
of Unicode 16.
-/

namespace PushGoals.Text

/-- Scripts with the lengths of their stretches, from code point 0 on. -/
def scriptLines : List String :=
  ["Common65Latin26Common6Latin26Common47Latin1Common15Latin1Common5Latin23Common1Latin31Common1",
   "Latin449Common39Latin5Common5Bopomofo2Common20Inherited112Greek4Common1Greek3Unknown2Greek4",
   "Common1Greek1Unknown4Greek1Common1Greek1Common1Greek3Unknown1Greek1Unknown1Greek20Unknown1",
   "Greek63Coptic14Greek16Cyrillic133Inherited2Cyrillic169Unknown1Armenian38Unknown2Armenian50",
   "Unknown2Armenian3Unknown1Hebrew55Unknown8Hebrew27Unknown4Hebrew6Unknown11Arabic5Common1",
   "Arabic6Common1Arabic14Common1Arabic3Common1Arabic32Common1Arabic10Inherited11Arabic26",
   "Inherited1Arabic108Common1Arabic34Syriac14Unknown1Syriac60Unknown2Syriac3Arabic48Thaana50",
   "Unknown14Nko59Unknown2Nko3Samaritan46Unknown2Samaritan15Unknown1Mandaic28Unknown2Mandaic1",
   "Unknown1Syriac11Unknown5Arabic31Unknown1Arabic2Unknown5Arabic75Common1Arabic29Devanagari81",
   "Inherited4Devanagari15Common2Devanagari26Bengali4Unknown1Bengali8Unknown2Bengali2Unknown2",
   "Bengali22Unknown1Bengali7Unknown1Bengali1Unknown3Bengali4Unknown2Bengali9Unknown2Bengali2",
   "Unknown2Bengali4Unknown8Bengali1Unknown4Bengali2Unknown1Bengali5Unknown2Bengali25Unknown2",
   "Gurmukhi3Unknown1Gurmukhi6Unknown4Gurmukhi2Unknown2Gurmukhi22Unknown1Gurmukhi7Unknown1",
   "Gurmukhi2Unknown1Gurmukhi2Unknown1Gurmukhi2Unknown2Gurmukhi1Unknown1Gurmukhi5Unknown4",
   "Gurmukhi2Unknown2Gurmukhi3Unknown3Gurmukhi1Unknown7Gurmukhi4Unknown1Gurmukhi1Unknown7",
   "Gurmukhi17Unknown10Gujarati3Unknown1Gujarati9Unknown1Gujarati3Unknown1Gujarati22Unknown1",
   "Gujarati7Unknown1Gujarati2Unknown1Gujarati5Unknown2Gujarati10Unknown1Gujarati3Unknown1",
   "Gujarati3Unknown2Gujarati1Unknown15Gujarati4Unknown2Gujarati12Unknown7Gujarati7Unknown1",
   "Oriya3Unknown1Oriya8Unknown2Oriya2Unknown2Oriya22Unknown1Oriya7Unknown1Oriya2Unknown1Oriya5",
   "Unknown2Oriya9Unknown2Oriya2Unknown2Oriya3Unknown7Oriya3Unknown4Oriya2Unknown1Oriya5Unknown2",
   "Oriya18Unknown10Tamil2Unknown1Tamil6Unknown3Tamil3Unknown1Tamil4Unknown3Tamil2Unknown1Tamil1",
   "Unknown1Tamil2Unknown3Tamil2Unknown3Tamil3Unknown3Tamil12Unknown4Tamil5Unknown3Tamil3",
   "Unknown1Tamil4Unknown2Tamil1Unknown6Tamil1Unknown14Tamil21Unknown5Telugu13Unknown1Telugu3",
   "Unknown1Telugu23Unknown1Telugu16Unknown2Telugu9Unknown1Telugu3Unknown1Telugu4Unknown7Telugu2",
   "Unknown1Telugu3Unknown2Telugu1Unknown2Telugu4Unknown2Telugu10Unknown7Telugu9Kannada13",
   "Unknown1Kannada3Unknown1Kannada23Unknown1Kannada10Unknown1Kannada5Unknown2Kannada9Unknown1",
   "Kannada3Unknown1Kannada4Unknown7Kannada2Unknown6Kannada2Unknown1Kannada4Unknown2Kannada10",
   "Unknown1Kannada3Unknown12Malayalam13Unknown1Malayalam3Unknown1Malayalam51Unknown1Malayalam3",
   "Unknown1Malayalam6Unknown4Malayalam16Unknown2Malayalam26Unknown1Sinhala3Unknown1Sinhala18",
   "Unknown3Sinhala24Unknown1Sinhala9Unknown1Sinhala1Unknown2Sinhala7Unknown3Sinhala1Unknown4",
   "Sinhala6Unknown1Sinhala1Unknown1Sinhala8Unknown6Sinhala10Unknown2Sinhala3Unknown12Thai58",
   "Unknown4Common1Thai28Unknown37Lao2Unknown1Lao1Unknown1Lao5Unknown1Lao24Unknown1Lao1Unknown1",
   "Lao23Unknown2Lao5Unknown1Lao1Unknown1Lao7Unknown1Lao10Unknown2Lao4Unknown32Tibetan72Unknown1",
   "Tibetan36Unknown4Tibetan39Unknown1Tibetan36Unknown1Tibetan15Unknown1Tibetan7Common4Tibetan2",
   "Unknown37Myanmar160Georgian38Unknown1Georgian1Unknown5Georgian1Unknown2Georgian43Common1",
   "Georgian4Hangul256Ethiopic73Unknown1Ethiopic4Unknown2Ethiopic7Unknown1Ethiopic1Unknown1",
   "Ethiopic4Unknown2Ethiopic41Unknown1Ethiopic4Unknown2Ethiopic33Unknown1Ethiopic4Unknown2",
   "Ethiopic7Unknown1Ethiopic1Unknown1Ethiopic4Unknown2Ethiopic15Unknown1Ethiopic57Unknown1",
   "Ethiopic4Unknown2Ethiopic67Unknown2Ethiopic32Unknown3Ethiopic26Unknown6Cherokee86Unknown2",
   "Cherokee6Unknown2Canadian_Aboriginal640Ogham29Unknown3Runic75Common3Runic11Unknown7Tagalog22",
   "Unknown9Tagalog1Hanunoo21Common2Unknown9Buhid20Unknown12Tagbanwa13Unknown1Tagbanwa3Unknown1",
   "Tagbanwa2Unknown12Khmer94Unknown2Khmer10Unknown6Khmer10Unknown6Mongolian2Common2Mongolian1",
   "Common1Mongolian20Unknown6Mongolian89Unknown7Mongolian43Unknown5Canadian_Aboriginal70",
   "Unknown10Limbu31Unknown1Limbu12Unknown4Limbu12Unknown4Limbu1Unknown3Limbu12Tai_Le30Unknown2",
   "Tai_Le5Unknown11New_Tai_Lue44Unknown4New_Tai_Lue26Unknown6New_Tai_Lue11Unknown3New_Tai_Lue2",
   "Khmer32Buginese28Unknown2Buginese2Tai_Tham63Unknown1Tai_Tham29Unknown2Tai_Tham11Unknown6",
   "Tai_Tham10Unknown6Tai_Tham14Unknown2Inherited31Unknown49Balinese77Unknown1Balinese50",
   "Sundanese64Batak52Unknown8Batak4Lepcha56Unknown3Lepcha15Unknown3Lepcha3Ol_Chiki48Cyrillic11",
   "Unknown5Georgian43Unknown2Georgian3Sundanese8Unknown8Inherited3Common1Inherited13Common1",
   "Inherited7Common4Inherited1Common6Inherited1Common3Inherited2Common1Unknown5Latin38Greek5",
   "Cyrillic1Latin49Greek5Latin4Greek5Latin13Cyrillic1Latin70Greek1Inherited64Latin256Greek22",
   "Unknown2Greek6Unknown2Greek38Unknown2Greek6Unknown2Greek8Unknown1Greek1Unknown1Greek1",
   "Unknown1Greek1Unknown1Greek31Unknown2Greek53Unknown1Greek15Unknown1Greek14Unknown2Greek6",
   "Unknown1Greek19Unknown2Greek3Unknown1Greek9Unknown1Common12Inherited2Common87Unknown1",
   "Common11Latin1Unknown2Common11Latin1Common15Unknown1Latin13Unknown3Common33Unknown15",
   "Inherited33Unknown15Common38Greek1Common3Latin2Common6Latin1Common27Latin1Common17Latin41",
   "Common3Unknown4Common666Unknown22Common11Unknown21Common928Braille256Common628Unknown2",
   "Common32Unknown1Common105Glagolitic96Latin32Coptic116Unknown5Coptic7Georgian38Unknown1",
   "Georgian1Unknown5Georgian1Unknown2Tifinagh56Unknown7Tifinagh2Unknown14Tifinagh1Ethiopic23",
   "Unknown9Ethiopic7Unknown1Ethiopic7Unknown1Ethiopic7Unknown1Ethiopic7Unknown1Ethiopic7",
   "Unknown1Ethiopic7Unknown1Ethiopic7Unknown1Ethiopic7Unknown1Cyrillic32Common94Unknown34Han26",
   "Unknown1Han89Unknown12Han214Unknown26Common21Han1Common1Han1Common25Han9Inherited4Hangul2",
   "Common8Han4Common4Unknown1Hiragana86Unknown2Inherited2Common2Hiragana3Common1Katakana90",
   "Common2Katakana3Unknown5Bopomofo43Unknown1Hangul94Unknown1Common16Bopomofo32Common38Unknown9",
   "Common1Katakana16Hangul31Unknown1Common64Hangul31Common81Katakana47Common1Katakana88",
   "Common168Han6592Common64Han20992Yi1165Unknown3Yi55Unknown9Lisu48Vai300Unknown20Cyrillic96",
   "Bamum88Unknown8Common34Latin102Common3Latin67Unknown2Latin2Unknown1Latin1Unknown1Latin8",
   "Unknown21Latin14Syloti_Nagri45Unknown3Common10Unknown6Phags_Pa56Unknown8Saurashtra70Unknown8",
   "Saurashtra12Unknown6Devanagari32Kayah_Li46Common1Kayah_Li1Rejang36Unknown11Rejang1Hangul29",
   "Unknown3Javanese78Unknown1Common1Javanese10Unknown4Javanese2Myanmar31Unknown1Cham55Unknown9",
   "Cham14Unknown2Cham10Unknown2Cham4Myanmar32Tai_Viet67Unknown24Tai_Viet5Meetei_Mayek23",
   "Unknown10Ethiopic6Unknown2Ethiopic6Unknown2Ethiopic6Unknown9Ethiopic7Unknown1Ethiopic7",
   "Unknown1Latin43Common1Latin9Greek1Latin4Common2Unknown4Cherokee80Meetei_Mayek46Unknown2",
   "Meetei_Mayek10Unknown6Hangul11172Unknown12Hangul23Unknown4Hangul49Unknown8452Han366Unknown2",
   "Han106Unknown38Latin7Unknown12Armenian5Unknown5Hebrew26Unknown1Hebrew5Unknown1Hebrew1",
   "Unknown1Hebrew2Unknown1Hebrew2Unknown1Hebrew10Arabic115Unknown16Arabic363Common2Arabic80",
   "Unknown2Arabic54Unknown7Arabic1Unknown32Arabic16Inherited16Common10Unknown6Inherited14",
   "Cyrillic2Common35Unknown1Common19Unknown1Common4Unknown4Arabic5Unknown1Arabic135Unknown2",
   "Common1Unknown1Common32Latin26Common6Latin26Common11Katakana10Common1Katakana45Common2",
   "Hangul31Unknown3Hangul6Unknown2Hangul6Unknown2Hangul6Unknown2Hangul3Unknown3Common7Unknown1",
   "Common7Unknown10Common5Unknown2Linear_B12Unknown1Linear_B26Unknown1Linear_B19Unknown1",
   "Linear_B2Unknown1Linear_B15Unknown2Linear_B14Unknown34Linear_B123Unknown5Common3Unknown4",
   "Common45Unknown3Common9Greek79Unknown1Common13Unknown3Greek1Unknown47Common45Inherited1",
   "Unknown130Lycian29Unknown3Carian49Unknown15Inherited1Common27Unknown4Old_Italic36Unknown9",
   "Old_Italic3Gothic27Unknown5Old_Permic43Unknown5Ugaritic30Unknown1Ugaritic1Old_Persian36",
   "Unknown4Old_Persian14Unknown42Deseret80Shavian48Osmanya30Unknown2Osmanya10Unknown6Osage36",
   "Unknown4Osage36Unknown4Elbasan40Unknown8Caucasian_Albanian52Unknown11Caucasian_Albanian1",
   "Vithkuqi11Unknown1Vithkuqi15Unknown1Vithkuqi7Unknown1Vithkuqi2Unknown1Vithkuqi11Unknown1",
   "Vithkuqi15Unknown1Vithkuqi7Unknown1Vithkuqi2Unknown3Todhri52Unknown12Linear_A311Unknown9",
   "Linear_A22Unknown10Linear_A8Unknown24Latin6Unknown1Latin42Unknown1Latin9Unknown69Cypriot6",
   "Unknown2Cypriot1Unknown1Cypriot44Unknown1Cypriot2Unknown3Cypriot1Unknown2Cypriot1",
   "Imperial_Aramaic22Unknown1Imperial_Aramaic9Palmyrene32Nabataean31Unknown8Nabataean9Unknown48",
   "Hatran19Unknown1Hatran2Unknown5Hatran5Phoenician28Unknown3Phoenician1Lydian26Unknown5Lydian1",
   "Unknown64Meroitic_Hieroglyphs32Meroitic_Cursive24Unknown4Meroitic_Cursive20Unknown2",
   "Meroitic_Cursive46Kharoshthi4Unknown1Kharoshthi2Unknown5Kharoshthi8Unknown1Kharoshthi3",
   "Unknown1Kharoshthi29Unknown2Kharoshthi3Unknown4Kharoshthi10Unknown7Kharoshthi9Unknown7",
   "Old_South_Arabian32Old_North_Arabian32Unknown32Manichaean39Unknown4Manichaean12Unknown9",
   "Avestan54Unknown3Avestan7Inscriptional_Parthian22Unknown2Inscriptional_Parthian8",
   "Inscriptional_Pahlavi19Unknown5Inscriptional_Pahlavi8Psalter_Pahlavi18Unknown7",
   "Psalter_Pahlavi4Unknown12Psalter_Pahlavi7Unknown80Old_Turkic73Unknown55Old_Hungarian51",
   "Unknown13Old_Hungarian51Unknown7Old_Hungarian6Hanifi_Rohingya40Unknown8Hanifi_Rohingya10",
   "Unknown6Garay38Unknown3Garay29Unknown8Garay2Unknown208Arabic31Unknown1Yezidi42Unknown1",
   "Yezidi3Unknown2Yezidi2Unknown16Arabic3Unknown55Arabic4Old_Sogdian40Unknown8Sogdian42",
   "Unknown22Old_Uyghur26Unknown38Chorasmian28Unknown20Elymaic23Unknown9Brahmi78Unknown4Brahmi36",
   "Unknown9Brahmi1Kaithi67Unknown10Kaithi1Unknown2Sora_Sompeng25Unknown7Sora_Sompeng10Unknown6",
   "Chakma53Unknown1Chakma18Unknown8Mahajani39Unknown9Sharada96Unknown1Sinhala20Unknown11",
   "Khojki18Unknown1Khojki47Unknown62Multani7Unknown1Multani1Unknown1Multani4Unknown1Multani15",
   "Unknown1Multani11Unknown6Khudawadi59Unknown5Khudawadi10Unknown6Grantha4Unknown1Grantha8",
   "Unknown2Grantha2Unknown2Grantha22Unknown1Grantha7Unknown1Grantha2Unknown1Grantha5Unknown1",
   "Inherited1Grantha9Unknown2Grantha2Unknown2Grantha3Unknown2Grantha1Unknown6Grantha1Unknown5",
   "Grantha7Unknown2Grantha7Unknown3Grantha5Unknown11Tulu_Tigalari10Unknown1Tulu_Tigalari1",
   "Unknown2Tulu_Tigalari1Unknown1Tulu_Tigalari38Unknown1Tulu_Tigalari10Unknown1Tulu_Tigalari1",
   "Unknown2Tulu_Tigalari1Unknown1Tulu_Tigalari4Unknown1Tulu_Tigalari10Unknown1Tulu_Tigalari2",
   "Unknown8Tulu_Tigalari2Unknown29Newa92Unknown1Newa5Unknown30Tirhuta72Unknown8Tirhuta10",
   "Unknown166Siddham54Unknown2Siddham38Unknown34Modi69Unknown11Modi10Unknown6Mongolian13",
   "Unknown19Takri58Unknown6Takri10Unknown6Myanmar20Unknown28Ahom27Unknown2Ahom15Unknown4Ahom23",
   "Unknown185Dogra60Unknown100Warang_Citi83Unknown12Warang_Citi1Dives_Akuru7Unknown2",
   "Dives_Akuru1Unknown2Dives_Akuru8Unknown1Dives_Akuru2Unknown1Dives_Akuru30Unknown1",
   "Dives_Akuru2Unknown2Dives_Akuru12Unknown9Dives_Akuru10Unknown70Nandinagari8Unknown2",
   "Nandinagari46Unknown2Nandinagari11Unknown27Zanabazar_Square72Unknown8Soyombo83Unknown13",
   "Canadian_Aboriginal16Pau_Cin_Hau57Unknown7Devanagari10Unknown182Sunuwar34Unknown14Sunuwar10",
   "Unknown6Bhaiksuki9Unknown1Bhaiksuki45Unknown1Bhaiksuki14Unknown10Bhaiksuki29Unknown3",
   "Marchen32Unknown2Marchen22Unknown1Marchen14Unknown73Masaram_Gondi7Unknown1Masaram_Gondi2",
   "Unknown1Masaram_Gondi44Unknown3Masaram_Gondi1Unknown1Masaram_Gondi2Unknown1Masaram_Gondi9",
   "Unknown8Masaram_Gondi10Unknown6Gunjala_Gondi6Unknown1Gunjala_Gondi2Unknown1Gunjala_Gondi37",
   "Unknown1Gunjala_Gondi2Unknown1Gunjala_Gondi6Unknown7Gunjala_Gondi10Unknown310Makasar25",
   "Unknown7Kawi17Unknown1Kawi41Unknown3Kawi29Unknown85Lisu1Unknown15Tamil50Unknown13Tamil1",
   "Cuneiform922Unknown102Cuneiform111Unknown1Cuneiform5Unknown11Cuneiform196Unknown2636",
   "Cypro_Minoan99Unknown13Egyptian_Hieroglyphs1110Unknown10Egyptian_Hieroglyphs3995Unknown5",
   "Anatolian_Hieroglyphs583Unknown6841Gurung_Khema58Unknown1734Bamum569Unknown7Mro31Unknown1",
   "Mro10Unknown4Mro2Tangsa79Unknown1Tangsa10Unknown6Bassa_Vah30Unknown2Bassa_Vah6Unknown10",
   "Pahawh_Hmong70Unknown10Pahawh_Hmong10Unknown1Pahawh_Hmong7Unknown1Pahawh_Hmong21Unknown5",
   "Pahawh_Hmong19Unknown432Kirat_Rai58Unknown198Medefaidrin91Unknown101Miao75Unknown4Miao57",
   "Unknown7Miao17Unknown64Tangut1Nushu1Han2Khitan_Small_Script1Unknown11Han2Unknown14Tangut6136",
   "Unknown8Tangut768Khitan_Small_Script470Unknown41Khitan_Small_Script1Tangut9Unknown8935",
   "Katakana4Unknown1Katakana7Unknown1Katakana2Unknown1Katakana1Hiragana287Katakana3Unknown15",
   "Hiragana1Unknown29Hiragana3Unknown2Katakana1Unknown14Katakana4Unknown8Nushu396Unknown2308",
   "Duployan107Unknown5Duployan13Unknown3Duployan9Unknown7Duployan10Unknown2Duployan4Common4",
   "Unknown3932Common250Unknown6Common436Unknown76Inherited46Unknown2Inherited23Unknown9",
   "Common116Unknown60Common246Unknown10Common39Unknown2Common62Inherited3Common17Inherited8",
   "Common2Inherited7Common30Inherited4Common61Unknown21Greek70Unknown122Common20Unknown12",
   "Common20Unknown12Common87Unknown9Common25Unknown135Common85Unknown1Common71Unknown1Common2",
   "Unknown2Common1Unknown2Common2Unknown2Common4Unknown1Common12Unknown1Common1Unknown1Common7",
   "Unknown1Common65Unknown1Common4Unknown2Common8Unknown1Common7Unknown1Common28Unknown1Common4",
   "Unknown1Common5Unknown1Common1Unknown3Common7Unknown1Common340Unknown2Common292Unknown2",
   "Common50SignWriting652Unknown15SignWriting5Unknown1SignWriting15Unknown1104Latin31Unknown6",
   "Latin6Unknown213Glagolitic7Unknown1Glagolitic17Unknown2Glagolitic7Unknown1Glagolitic2",
   "Unknown1Glagolitic5Unknown5Cyrillic62Unknown33Cyrillic1Unknown112Nyiakeng_Puachue_Hmong45",
   "Unknown3Nyiakeng_Puachue_Hmong14Unknown2Nyiakeng_Puachue_Hmong10Unknown4",
   "Nyiakeng_Puachue_Hmong2Unknown320Toto31Unknown17Wancho58Unknown5Wancho1Unknown464",
   "Nag_Mundari42Unknown214Ol_Onal43Unknown4Ol_Onal1Unknown480Ethiopic7Unknown1Ethiopic4Unknown1",
   "Ethiopic2Unknown1Ethiopic15Unknown1Mende_Kikakui197Unknown2Mende_Kikakui16Unknown41Adlam76",
   "Unknown4Adlam10Unknown4Adlam2Unknown785Common68Unknown76Common61Unknown194Arabic4Unknown1",
   "Arabic27Unknown1Arabic2Unknown1Arabic1Unknown2Arabic1Unknown1Arabic10Unknown1Arabic4Unknown1",
   "Arabic1Unknown1Arabic1Unknown6Arabic1Unknown4Arabic1Unknown1Arabic1Unknown1Arabic1Unknown1",
   "Arabic3Unknown1Arabic2Unknown1Arabic1Unknown2Arabic1Unknown1Arabic1Unknown1Arabic1Unknown1",
   "Arabic1Unknown1Arabic1Unknown1Arabic2Unknown1Arabic1Unknown2Arabic4Unknown1Arabic7Unknown1",
   "Arabic4Unknown1Arabic4Unknown1Arabic1Unknown1Arabic10Unknown1Arabic17Unknown5Arabic3Unknown1",
   "Arabic5Unknown1Arabic17Unknown52Arabic2Unknown270Common44Unknown4Common100Unknown12Common15",
   "Unknown2Common15Unknown1Common15Unknown1Common37Unknown10Common174Unknown56Common26Hiragana1",
   "Common2Unknown13Common44Unknown4Common9Unknown7Common2Unknown14Common6Unknown154Common984",
   "Unknown4Common17Unknown3Common13Unknown3Common119Unknown4Common95Unknown6Common12Unknown4",
   "Common1Unknown15Common12Unknown4Common56Unknown8Common10Unknown6Common40Unknown8Common30",
   "Unknown2Common12Unknown4Common2Unknown62Common340Unknown12Common14Unknown2Common13Unknown3",
   "Common10Unknown5Common56Unknown7Common15Unknown2Common11Unknown6Common9Unknown7Common147",
   "Unknown1Common102Unknown1030Han42720Unknown32Han4154Unknown6Han222Unknown2Han5762Unknown14",
   "Han7473Unknown15Han622Unknown2466Han542Unknown1506Han4939Unknown5Han4192Unknown711761Common1",
   "Unknown30Common96Unknown128Inherited240Unknown196112"]

def scriptRuns : List Run := runsOfTable scriptLines

def CharSet.ofScript (script : String) : CharSet := .ofRuns scriptRuns [script]

/-- Scripts with the names they go by, spelt loosely. -/
def scriptNames : List String :=
  ["Adlam=adlam,adlm Ahom=ahom Anatolian_Hieroglyphs=anatolianhieroglyphs,hluw",
   "Arabic=arab,arabic Armenian=armenian,armn Avestan=avestan,avst Balinese=bali,balinese",
   "Bamum=bamu,bamum Bassa_Vah=bass,bassavah Batak=batak,batk Bengali=beng,bengali",
   "Bhaiksuki=bhaiksuki,bhks Bopomofo=bopo,bopomofo Brahmi=brah,brahmi Braille=brai,braille",
   "Buginese=bugi,buginese Buhid=buhd,buhid Canadian_Aboriginal=canadianaboriginal,cans",
   "Carian=cari,carian Caucasian_Albanian=aghb,caucasianalbanian Chakma=cakm,chakma Cham=cham",
   "Cherokee=cher,cherokee Chorasmian=chorasmian,chrs Common=common,zyyy Coptic=copt,coptic,qaac",
   "Cuneiform=cuneiform,xsux Cypriot=cprt,cypriot Cypro_Minoan=cpmn,cyprominoan",
   "Cyrillic=cyrillic,cyrl Deseret=deseret,dsrt Devanagari=deva,devanagari",
   "Dives_Akuru=diak,divesakuru Dogra=dogr,dogra Duployan=dupl,duployan",
   "Egyptian_Hieroglyphs=egyp,egyptianhieroglyphs Elbasan=elba,elbasan Elymaic=elym,elymaic",
   "Ethiopic=ethi,ethiopic Garay=gara,garay Georgian=geor,georgian Glagolitic=glag,glagolitic",
   "Gothic=goth,gothic Grantha=gran,grantha Greek=greek,grek Gujarati=gujarati,gujr",
   "Gunjala_Gondi=gong,gunjalagondi Gurmukhi=gurmukhi,guru Gurung_Khema=gukh,gurungkhema",
   "Han=han,hani Hangul=hang,hangul Hanifi_Rohingya=hanifirohingya,rohg Hanunoo=hano,hanunoo",
   "Hatran=hatr,hatran Hebrew=hebr,hebrew Hiragana=hira,hiragana",
   "Imperial_Aramaic=armi,imperialaramaic Inherited=inherited,qaai,zinh",
   "Inscriptional_Pahlavi=inscriptionalpahlavi,phli",
   "Inscriptional_Parthian=inscriptionalparthian,prti Javanese=java,javanese Kaithi=kaithi,kthi",
   "Kannada=kannada,knda Katakana=kana,katakana Kawi=kawi Kayah_Li=kali,kayahli",
   "Kharoshthi=khar,kharoshthi Khitan_Small_Script=khitansmallscript,kits Khmer=khmer,khmr",
   "Khojki=khoj,khojki Khudawadi=khudawadi,sind Kirat_Rai=kiratrai,krai Lao=lao,laoo",
   "Latin=latin,latn Lepcha=lepc,lepcha Limbu=limb,limbu Linear_A=lina,lineara",
   "Linear_B=linb,linearb Lisu=lisu Lycian=lyci,lycian Lydian=lydi,lydian Mahajani=mahajani,mahj",
   "Makasar=maka,makasar Malayalam=malayalam,mlym Mandaic=mand,mandaic",
   "Manichaean=mani,manichaean Marchen=marc,marchen Masaram_Gondi=gonm,masaramgondi",
   "Medefaidrin=medefaidrin,medf Meetei_Mayek=meeteimayek,mtei Mende_Kikakui=mend,mendekikakui",
   "Meroitic_Cursive=merc,meroiticcursive Meroitic_Hieroglyphs=mero,meroitichieroglyphs",
   "Miao=miao,plrd Modi=modi Mongolian=mong,mongolian Mro=mro,mroo Multani=mult,multani",
   "Myanmar=myanmar,mymr Nabataean=nabataean,nbat Nag_Mundari=nagm,nagmundari",
   "Nandinagari=nand,nandinagari New_Tai_Lue=newtailue,talu Newa=newa Nko=nko,nkoo",
   "Nushu=nshu,nushu Nyiakeng_Puachue_Hmong=hmnp,nyiakengpuachuehmong Ogham=ogam,ogham",
   "Ol_Chiki=olchiki,olck Ol_Onal=olonal,onao Old_Hungarian=hung,oldhungarian",
   "Old_Italic=ital,olditalic Old_North_Arabian=narb,oldnortharabian Old_Permic=oldpermic,perm",
   "Old_Persian=oldpersian,xpeo Old_Sogdian=oldsogdian,sogo",
   "Old_South_Arabian=oldsoutharabian,sarb Old_Turkic=oldturkic,orkh Old_Uyghur=olduyghur,ougr",
   "Oriya=oriya,orya Osage=osage,osge Osmanya=osma,osmanya Pahawh_Hmong=hmng,pahawhhmong",
   "Palmyrene=palm,palmyrene Pau_Cin_Hau=pauc,paucinhau Phags_Pa=phag,phagspa",
   "Phoenician=phnx,phoenician Psalter_Pahlavi=phlp,psalterpahlavi Rejang=rejang,rjng",
   "Runic=runic,runr Samaritan=samaritan,samr Saurashtra=saur,saurashtra Sharada=sharada,shrd",
   "Shavian=shavian,shaw Siddham=sidd,siddham SignWriting=sgnw,signwriting Sinhala=sinh,sinhala",
   "Sogdian=sogd,sogdian Sora_Sompeng=sora,sorasompeng Soyombo=soyo,soyombo",
   "Sundanese=sund,sundanese Sunuwar=sunu,sunuwar Syloti_Nagri=sylo,sylotinagri",
   "Syriac=syrc,syriac Tagalog=tagalog,tglg Tagbanwa=tagb,tagbanwa Tai_Le=taile,tale",
   "Tai_Tham=lana,taitham Tai_Viet=taiviet,tavt Takri=takr,takri Tamil=tamil,taml",
   "Tangsa=tangsa,tnsa Tangut=tang,tangut Telugu=telu,telugu Thaana=thaa,thaana Thai=thai",
   "Tibetan=tibetan,tibt Tifinagh=tfng,tifinagh Tirhuta=tirh,tirhuta Todhri=todhri,todr",
   "Toto=toto Tulu_Tigalari=tulutigalari,tutg Ugaritic=ugar,ugaritic Vai=vai,vaii",
   "Vithkuqi=vith,vithkuqi Wancho=wancho,wcho Warang_Citi=wara,warangciti Yezidi=yezi,yezidi",
   "Yi=yi,yiii Zanabazar_Square=zanabazarsquare,zanb"]

/-- The script that goes by `name`; none goes by the names of `Unknown`. -/
def scriptOfName? (name : String) : Option String :=
  nameOfAlias? scriptNames name

end PushGoals.Text
