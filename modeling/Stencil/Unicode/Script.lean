import Stencil.Unicode.Ranges

/-!
# Scripts

The script of a code point as a run list over four-letter codes, the scripts a shared code point is
used with, and the names of scripts.
-/

namespace Stencil.Unicode

structure Script where
  code : String
  deriving DecidableEq, Repr

namespace Script

/-- Four-letter codes with the other names of the script. -/
def names : List (String × String) :=
  [("Adlm", "Adlam"),
   ("Aghb", "Caucasian_Albanian"),
   ("Ahom", "Ahom"),
   ("Arab", "Arabic"),
   ("Armi", "Imperial_Aramaic"),
   ("Armn", "Armenian"),
   ("Avst", "Avestan"),
   ("Bali", "Balinese"),
   ("Bamu", "Bamum"),
   ("Bass", "Bassa_Vah"),
   ("Batk", "Batak"),
   ("Beng", "Bengali"),
   ("Bhks", "Bhaiksuki"),
   ("Bopo", "Bopomofo"),
   ("Brah", "Brahmi"),
   ("Brai", "Braille"),
   ("Bugi", "Buginese"),
   ("Buhd", "Buhid"),
   ("Cakm", "Chakma"),
   ("Cans", "Canadian_Aboriginal"),
   ("Cari", "Carian"),
   ("Cham", "Cham"),
   ("Cher", "Cherokee"),
   ("Chrs", "Chorasmian"),
   ("Copt", "Coptic Qaac"),
   ("Cpmn", "Cypro_Minoan"),
   ("Cprt", "Cypriot"),
   ("Cyrl", "Cyrillic"),
   ("Deva", "Devanagari"),
   ("Diak", "Dives_Akuru"),
   ("Dogr", "Dogra"),
   ("Dsrt", "Deseret"),
   ("Dupl", "Duployan"),
   ("Egyp", "Egyptian_Hieroglyphs"),
   ("Elba", "Elbasan"),
   ("Elym", "Elymaic"),
   ("Ethi", "Ethiopic"),
   ("Geor", "Georgian"),
   ("Glag", "Glagolitic"),
   ("Gong", "Gunjala_Gondi"),
   ("Gonm", "Masaram_Gondi"),
   ("Goth", "Gothic"),
   ("Gran", "Grantha"),
   ("Grek", "Greek"),
   ("Gujr", "Gujarati"),
   ("Guru", "Gurmukhi"),
   ("Hang", "Hangul"),
   ("Hani", "Han"),
   ("Hano", "Hanunoo"),
   ("Hatr", "Hatran"),
   ("Hebr", "Hebrew"),
   ("Hira", "Hiragana"),
   ("Hluw", "Anatolian_Hieroglyphs"),
   ("Hmng", "Pahawh_Hmong"),
   ("Hmnp", "Nyiakeng_Puachue_Hmong"),
   ("Hung", "Old_Hungarian"),
   ("Ital", "Old_Italic"),
   ("Java", "Javanese"),
   ("Kali", "Kayah_Li"),
   ("Kana", "Katakana"),
   ("Kawi", "Kawi"),
   ("Khar", "Kharoshthi"),
   ("Khmr", "Khmer"),
   ("Khoj", "Khojki"),
   ("Kits", "Khitan_Small_Script"),
   ("Knda", "Kannada"),
   ("Kthi", "Kaithi"),
   ("Lana", "Tai_Tham"),
   ("Laoo", "Lao"),
   ("Latn", "Latin"),
   ("Lepc", "Lepcha"),
   ("Limb", "Limbu"),
   ("Lina", "Linear_A"),
   ("Linb", "Linear_B"),
   ("Lisu", "Lisu"),
   ("Lyci", "Lycian"),
   ("Lydi", "Lydian"),
   ("Mahj", "Mahajani"),
   ("Maka", "Makasar"),
   ("Mand", "Mandaic"),
   ("Mani", "Manichaean"),
   ("Marc", "Marchen"),
   ("Medf", "Medefaidrin"),
   ("Mend", "Mende_Kikakui"),
   ("Merc", "Meroitic_Cursive"),
   ("Mero", "Meroitic_Hieroglyphs"),
   ("Mlym", "Malayalam"),
   ("Modi", "Modi"),
   ("Mong", "Mongolian"),
   ("Mroo", "Mro"),
   ("Mtei", "Meetei_Mayek"),
   ("Mult", "Multani"),
   ("Mymr", "Myanmar"),
   ("Nagm", "Nag_Mundari"),
   ("Nand", "Nandinagari"),
   ("Narb", "Old_North_Arabian"),
   ("Nbat", "Nabataean"),
   ("Newa", "Newa"),
   ("Nkoo", "Nko"),
   ("Nshu", "Nushu"),
   ("Ogam", "Ogham"),
   ("Olck", "Ol_Chiki"),
   ("Orkh", "Old_Turkic"),
   ("Orya", "Oriya"),
   ("Osge", "Osage"),
   ("Osma", "Osmanya"),
   ("Ougr", "Old_Uyghur"),
   ("Palm", "Palmyrene"),
   ("Pauc", "Pau_Cin_Hau"),
   ("Perm", "Old_Permic"),
   ("Phag", "Phags_Pa"),
   ("Phli", "Inscriptional_Pahlavi"),
   ("Phlp", "Psalter_Pahlavi"),
   ("Phnx", "Phoenician"),
   ("Plrd", "Miao"),
   ("Prti", "Inscriptional_Parthian"),
   ("Rjng", "Rejang"),
   ("Rohg", "Hanifi_Rohingya"),
   ("Runr", "Runic"),
   ("Samr", "Samaritan"),
   ("Sarb", "Old_South_Arabian"),
   ("Saur", "Saurashtra"),
   ("Sgnw", "SignWriting"),
   ("Shaw", "Shavian"),
   ("Shrd", "Sharada"),
   ("Sidd", "Siddham"),
   ("Sind", "Khudawadi"),
   ("Sinh", "Sinhala"),
   ("Sogd", "Sogdian"),
   ("Sogo", "Old_Sogdian"),
   ("Sora", "Sora_Sompeng"),
   ("Soyo", "Soyombo"),
   ("Sund", "Sundanese"),
   ("Sylo", "Syloti_Nagri"),
   ("Syrc", "Syriac"),
   ("Tagb", "Tagbanwa"),
   ("Takr", "Takri"),
   ("Tale", "Tai_Le"),
   ("Talu", "New_Tai_Lue"),
   ("Taml", "Tamil"),
   ("Tang", "Tangut"),
   ("Tavt", "Tai_Viet"),
   ("Telu", "Telugu"),
   ("Tfng", "Tifinagh"),
   ("Tglg", "Tagalog"),
   ("Thaa", "Thaana"),
   ("Thai", "Thai"),
   ("Tibt", "Tibetan"),
   ("Tirh", "Tirhuta"),
   ("Tnsa", "Tangsa"),
   ("Toto", "Toto"),
   ("Ugar", "Ugaritic"),
   ("Vaii", "Vai"),
   ("Vith", "Vithkuqi"),
   ("Wara", "Warang_Citi"),
   ("Wcho", "Wancho"),
   ("Xpeo", "Old_Persian"),
   ("Xsux", "Cuneiform"),
   ("Yezi", "Yezidi"),
   ("Yiii", "Yi"),
   ("Zanb", "Zanabazar_Square"),
   ("Zinh", "Inherited Qaai"),
   ("Zyyy", "Common"),
   ("Zzzz", "Unknown"),
   ("Gara", "Garay"),
   ("Gukh", "Gurung_Khema"),
   ("Krai", "Kirat_Rai"),
   ("Onao", "Ol_Onal"),
   ("Sunu", "Sunuwar"),
   ("Todr", "Todhri"),
   ("Tutg", "Tulu_Tigalari"),
   ("Sidt", "Sidetic"),
   ("Tols", "Tolong_Siki"),
   ("Berf", "Beria_Erfe"),
   ("Tayo", "Tai_Yo")]

/-- Runs of equal script over the code space. -/
def runLines : List String :=
  ["41Zyyy1aLatn6Zyyy1aLatn2fZyyyLatnfZyyyLatn5Zyyy17LatnZyyy1fLatnZyyy1c1Latn27Zyyy5Latn5Zyyy2Bop",
   "o14Zyyy70Zinh4GrekZyyy3Grek2Zzzz4GrekZyyyGrek4ZzzzGrekZyyyGrekZyyy3GrekZzzzGrekZzzz14GrekZzzz3",
   "fGrekeCopt10Grek85Cyrl2Zinha9CyrlZzzz26Armn2Zzzz32Armn2Zzzz3ArmnZzzz37Hebr8Zzzz1bHebr4Zzzz6Heb",
   "rbZzzz5ArabZyyy6ArabZyyyeArabZyyy3ArabZyyy20ArabZyyyaArabbZinh1aArabZinh6cArabZyyy22ArabeSyrcZ",
   "zzz3cSyrc2Zzzz3Syrc30Arab32ThaaeZzzz3bNkoo2Zzzz3Nkoo2eSamr2ZzzzfSamrZzzz1cMand2ZzzzMandZzzzbSy",
   "rc5Zzzz22Arab5Zzzz4bArabZyyy1dArab51Deva4ZinhfDeva2Zyyy1aDeva4BengZzzz8Beng2Zzzz2Beng2Zzzz16Be",
   "ngZzzz7BengZzzzBeng3Zzzz4Beng2Zzzz9Beng2Zzzz2Beng2Zzzz4Beng8ZzzzBeng4Zzzz2BengZzzz5Beng2Zzzz19",
   "Beng2Zzzz3GuruZzzz6Guru4Zzzz2Guru2Zzzz16GuruZzzz7GuruZzzz2GuruZzzz2GuruZzzz2Guru2ZzzzGuruZzzz5",
   "Guru4Zzzz2Guru2Zzzz3Guru3ZzzzGuru7Zzzz4GuruZzzzGuru7Zzzz11GuruaZzzz3GujrZzzz9GujrZzzz3GujrZzzz",
   "16GujrZzzz7GujrZzzz2GujrZzzz5Gujr2ZzzzaGujrZzzz3GujrZzzz3Gujr2ZzzzGujrfZzzz4Gujr2ZzzzcGujr7Zzz",
   "z7GujrZzzz3OryaZzzz8Orya2Zzzz2Orya2Zzzz16OryaZzzz7OryaZzzz2OryaZzzz5Orya2Zzzz9Orya2Zzzz2Orya2Z",
   "zzz3Orya7Zzzz3Orya4Zzzz2OryaZzzz5Orya2Zzzz12OryaaZzzz2TamlZzzz6Taml3Zzzz3TamlZzzz4Taml3Zzzz2Ta",
   "mlZzzzTamlZzzz2Taml3Zzzz2Taml3Zzzz3Taml3ZzzzcTaml4Zzzz5Taml3Zzzz3TamlZzzz4Taml2ZzzzTaml6ZzzzTa",
   "mleZzzz15Taml5ZzzzdTeluZzzz3TeluZzzz17TeluZzzz10Telu2Zzzz9TeluZzzz3TeluZzzz4Telu7Zzzz2TeluZzzz",
   "3TeluZzzz2Telu2Zzzz4Telu2ZzzzaTelu7Zzzz9TeludKndaZzzz3KndaZzzz17KndaZzzzaKndaZzzz5Knda2Zzzz9Kn",
   "daZzzz3KndaZzzz4Knda7Zzzz2Knda5Zzzz3KndaZzzz4Knda2ZzzzaKndaZzzz3KndacZzzzdMlymZzzz3MlymZzzz33M",
   "lymZzzz3MlymZzzz6Mlym4Zzzz10Mlym2Zzzz1aMlymZzzz3SinhZzzz12Sinh3Zzzz18SinhZzzz9SinhZzzzSinh2Zzz",
   "z7Sinh3ZzzzSinh4Zzzz6SinhZzzzSinhZzzz8Sinh6ZzzzaSinh2Zzzz3SinhcZzzz3aThai4ZzzzZyyy1cThai25Zzzz",
   "2LaooZzzzLaooZzzz5LaooZzzz18LaooZzzzLaooZzzz17Laoo2Zzzz5LaooZzzzLaooZzzz7LaooZzzzaLaoo2Zzzz4La",
   "oo20Zzzz48TibtZzzz24Tibt4Zzzz27TibtZzzz24TibtZzzzfTibtZzzz7Tibt4Zyyy2Tibt25Zzzza0Mymr26GeorZzz",
   "zGeor5ZzzzGeor2Zzzz2bGeorZyyy4Geor100Hang49EthiZzzz4Ethi2Zzzz7EthiZzzzEthiZzzz4Ethi2Zzzz29Ethi",
   "Zzzz4Ethi2Zzzz21EthiZzzz4Ethi2Zzzz7EthiZzzzEthiZzzz4Ethi2ZzzzfEthiZzzz39EthiZzzz4Ethi2Zzzz43Et",
   "hi2Zzzz20Ethi3Zzzz1aEthi6Zzzz56Cher2Zzzz6Cher2Zzzz280Cans1dOgam3Zzzz4bRunr3ZyyybRunr7Zzzz16Tgl",
   "g9ZzzzTglg15Hano2Zyyy9Zzzz14BuhdcZzzzdTagbZzzz3TagbZzzz2TagbcZzzz5eKhmr2ZzzzaKhmr6ZzzzaKhmr6Zz",
   "zz2Mong2ZyyyMongZyyy14Mong6Zzzz59Mong7Zzzz2bMong5Zzzz46CansaZzzz1fLimbZzzzcLimb4ZzzzcLimb4Zzzz",
   "Limb3ZzzzcLimb1eTale2Zzzz5TalebZzzz2cTalu4Zzzz1aTalu6ZzzzbTalu3Zzzz2Talu20Khmr1cBugi2Zzzz2Bugi",
   "3fLanaZzzz1dLana2ZzzzbLana6ZzzzaLana6ZzzzeLana2Zzzz2eZinh2ZzzzcZinh14Zzzz4dBaliZzzz32Bali40Sun",
   "d34Batk8Zzzz4Batk38Lepc3ZzzzfLepc3Zzzz3Lepc30OlckbCyrl5Zzzz2bGeor2Zzzz3Geor8Sund8Zzzz3ZinhZyyy",
   "dZinhZyyy7Zinh4ZyyyZinh6ZyyyZinh3Zyyy2ZinhZyyy5Zzzz26Latn5GrekCyrl31Latn5Grek4Latn5GrekdLatnCy",
   "rl46LatnGrek40Zinh100Latn16Grek2Zzzz6Grek2Zzzz26Grek2Zzzz6Grek2Zzzz8GrekZzzzGrekZzzzGrekZzzzGr",
   "ekZzzz1fGrek2Zzzz35GrekZzzzfGrekZzzzeGrek2Zzzz6GrekZzzz13Grek2Zzzz3GrekZzzz9GrekZzzzcZyyy2Zinh",
   "57ZyyyZzzzbZyyyLatn2ZzzzbZyyyLatnfZyyyZzzzdLatn3Zzzz22ZyyyeZzzz21ZinhfZzzz26ZyyyGrek3Zyyy2Latn",
   "6ZyyyLatn1bZyyyLatn11Zyyy29Latn3Zyyy4Zzzz29aZyyy16ZzzzbZyyy15Zzzz3a0Zyyy100Brai274Zyyy2Zzzz8aZ",
   "yyy60Glag20Latn74Copt5Zzzz7Copt26GeorZzzzGeor5ZzzzGeor2Zzzz38Tfng7Zzzz2TfngeZzzzTfng17Ethi9Zzz",
   "z7EthiZzzz7EthiZzzz7EthiZzzz7EthiZzzz7EthiZzzz7EthiZzzz7EthiZzzz7EthiZzzz20Cyrl5eZyyy22Zzzz1aH",
   "aniZzzz59HanicZzzzd6Hani1aZzzz15ZyyyHaniZyyyHani19Zyyy9Hani4Zinh2Hang8Zyyy4Hani4ZyyyZzzz56Hira",
   "2Zzzz2Zinh2Zyyy3HiraZyyy5aKana2Zyyy3Kana5Zzzz2bBopoZzzz5eHangZzzz10Zyyy20Bopo26Zyyy9ZzzzZyyy10",
   "Kana1fHangZzzz40Zyyy1fHang51Zyyy2fKanaZyyy58Kanaa8Zyyy19c0Hani40Zyyy5200Hani48dYiii3Zzzz37Yiii",
   "9Zzzz30Lisu12cVaii14Zzzz60Cyrl58Bamu8Zzzz22Zyyy66Latn3Zyyy52Latn14ZzzzfLatn2dSylo3ZzzzaZyyy6Zz",
   "zz38Phag8Zzzz46Saur8ZzzzcSaur6Zzzz20Deva2eKaliZyyyKali24RjngbZzzzRjng1dHang3Zzzz4eJavaZzzzZyyy",
   "aJava4Zzzz2Java1fMymrZzzz37Cham9ZzzzeCham2ZzzzaCham2Zzzz4Cham20Mymr43Tavt18Zzzz5Tavt17MteiaZzz",
   "z6Ethi2Zzzz6Ethi2Zzzz6Ethi9Zzzz7EthiZzzz7EthiZzzz2bLatnZyyy9LatnGrek4Latn2Zyyy4Zzzz50Cher2eMte",
   "i2ZzzzaMtei6Zzzz2ba4HangcZzzz17Hang4Zzzz31Hang2104Zzzz16eHani2Zzzz6aHani26Zzzz7LatncZzzz5Armn5",
   "Zzzz1aHebrZzzz5HebrZzzzHebrZzzz2HebrZzzz2HebrZzzzaHebr1eeArab2Zyyy90Arab20Zzzz10Arab10ZinhaZyy",
   "y6ZzzzeZinh2Cyrl23ZyyyZzzz13ZyyyZzzz4Zyyy4Zzzz5ArabZzzz87Arab2ZzzzZyyyZzzz20Zyyy1aLatn6Zyyy1aL",
   "atnbZyyyaKanaZyyy2dKana2Zyyy1fHang3Zzzz6Hang2Zzzz6Hang2Zzzz6Hang2Zzzz3Hang3Zzzz7ZyyyZzzz7Zyyya",
   "Zzzz5Zyyy2ZzzzcLinbZzzz1aLinbZzzz13LinbZzzz2LinbZzzzfLinb2ZzzzeLinb22Zzzz7bLinb5Zzzz3Zyyy4Zzzz",
   "2dZyyy3Zzzz9Zyyy4fGrekZzzzdZyyy3ZzzzGrek2fZzzz2dZyyyZinh82Zzzz1dLyci3Zzzz31CarifZzzzZinh1bZyyy",
   "4Zzzz24Ital9Zzzz3Ital1bGoth5Zzzz2bPerm5Zzzz1eUgarZzzzUgar24Xpeo4ZzzzeXpeo2aZzzz50Dsrt30Shaw1eO",
   "sma2ZzzzaOsma6Zzzz24Osge4Zzzz24Osge4Zzzz28Elba8Zzzz34AghbbZzzzAghbbVithZzzzfVithZzzz7VithZzzz2",
   "VithZzzzbVithZzzzfVithZzzz7VithZzzz2Vith3Zzzz34TodrcZzzz137Lina9Zzzz16LinaaZzzz8Lina18Zzzz6Lat",
   "nZzzz2aLatnZzzz9Latn45Zzzz6Cprt2ZzzzCprtZzzz2cCprtZzzz2Cprt3ZzzzCprt2ZzzzCprt16ArmiZzzz9Armi20",
   "Palm1fNbat8Zzzz9Nbat30Zzzz13HatrZzzz2Hatr5Zzzz5Hatr1cPhnx3ZzzzPhnx1aLydi5ZzzzLydi1aSidt26Zzzz2",
   "0Mero18Merc4Zzzz14Merc2Zzzz2eMerc4KharZzzz2Khar5Zzzz8KharZzzz3KharZzzz1dKhar2Zzzz3Khar4ZzzzaKh",
   "ar7Zzzz9Khar7Zzzz20Sarb20Narb20Zzzz27Mani4ZzzzcMani9Zzzz36Avst3Zzzz7Avst16Prti2Zzzz8Prti13Phli",
   "5Zzzz8Phli12Phlp7Zzzz4PhlpcZzzz7Phlp50Zzzz49Orkh37Zzzz33HungdZzzz33Hung7Zzzz6Hung28Rohg8ZzzzaR",
   "ohg6Zzzz26Gara3Zzzz1dGara8Zzzz2Garad0Zzzz1fArabZzzz2aYeziZzzz3Yezi2Zzzz2Yezi10Zzzz6Arab8Zzzz9A",
   "rab21Zzzz6Arab28Sogo8Zzzz2aSogd16Zzzz1aOugr26Zzzz1cChrs14Zzzz17Elym9Zzzz4eBrah4Zzzz24Brah9Zzzz",
   "Brah43KthiaZzzzKthi2Zzzz19Sora7ZzzzaSora6Zzzz35CakmZzzz12Cakm8Zzzz27Mahj9Zzzz60ShrdZzzz14Sinhb",
   "Zzzz12KhojZzzz2fKhoj3eZzzz7MultZzzzMultZzzz4MultZzzzfMultZzzzbMult6Zzzz3bSind5ZzzzaSind6Zzzz4G",
   "ranZzzz8Gran2Zzzz2Gran2Zzzz16GranZzzz7GranZzzz2GranZzzz5GranZzzzZinh9Gran2Zzzz2Gran2Zzzz3Gran2",
   "ZzzzGran6ZzzzGran5Zzzz7Gran2Zzzz7Gran3Zzzz5GranbZzzzaTutgZzzzTutg2ZzzzTutgZzzz26TutgZzzzaTutgZ",
   "zzzTutg2ZzzzTutgZzzz4TutgZzzzaTutgZzzz2Tutg8Zzzz2Tutg1dZzzz5cNewaZzzz5Newa1eZzzz48Tirh8ZzzzaTi",
   "rha6Zzzz36Sidd2Zzzz26Sidd22Zzzz45ModibZzzzaModi6ZzzzdMong13Zzzz3aTakr6ZzzzaTakr6Zzzz14Mymr1cZz",
   "zz1bAhom2ZzzzfAhom4Zzzz17Ahomb9Zzzz3cDogr64Zzzz53WaracZzzzWara7Diak2ZzzzDiak2Zzzz8DiakZzzz2Dia",
   "kZzzz1eDiakZzzz2Diak2ZzzzcDiak9ZzzzaDiak46Zzzz8Nand2Zzzz2eNand2ZzzzbNand1bZzzz48Zanb8Zzzz53Soy",
   "odZzzz10Cans39Pauc7ZzzzaDeva56Zzzz8Shrd58Zzzz22SunueZzzzaSunu6Zzzz9BhksZzzz2dBhksZzzzeBhksaZzz",
   "z1dBhks3Zzzz20Marc2Zzzz16MarcZzzzeMarc49Zzzz7GonmZzzz2GonmZzzz2cGonm3ZzzzGonmZzzz2GonmZzzz9Gon",
   "m8ZzzzaGonm6Zzzz6GongZzzz2GongZzzz25GongZzzz2GongZzzz6Gong7ZzzzaGong6Zzzz2cTols4ZzzzaTolsf6Zzz",
   "z19Maka7Zzzz11KawiZzzz29Kawi3Zzzz1dKawi55ZzzzLisufZzzz32TamldZzzzTaml39aXsux66Zzzz6fXsuxZzzz5X",
   "suxbZzzzc4Xsuxa4cZzzz63CpmndZzzz456EgypaZzzzf9bEgyp5Zzzz247Hluw1ab9Zzzz3aGukh6c6Zzzz239Bamu7Zz",
   "zz1fMrooZzzzaMroo4Zzzz2Mroo4fTnsaZzzzaTnsa6Zzzz1eBass2Zzzz6BassaZzzz46HmngaZzzzaHmngZzzz7HmngZ",
   "zzz15Hmng5Zzzz13Hmng1b0Zzzz3aKraic6Zzzz5bMedf5Zzzz19Berf2Zzzz19Berf2cZzzz4bPlrd4Zzzz39Plrd7Zzz",
   "z11Plrd40ZzzzTangNshu2HaniKitsbZzzz7Hani9Zzzz1b00Tang1d6Kits29ZzzzKits1fTang61Zzzz73Tang21fdZz",
   "zz4KanaZzzz7KanaZzzz2KanaZzzzKana11fHira3KanafZzzzHira1dZzzz3Hira2ZzzzKanaeZzzz4Kana8Zzzz18cNs",
   "hu904Zzzz6bDupl5ZzzzdDupl3Zzzz9Dupl7ZzzzaDupl2Zzzz4Dupl4Zyyyf5cZzzzfdZyyy3Zzzz1b4Zyyy6Zzzz17Zy",
   "yyfZzzz11ZyyyfZzzz2eZinh2Zzzz17Zinh9Zzzz74Zyyy3cZzzzf6ZyyyaZzzz27Zyyy2Zzzz3eZyyy3Zinh11Zyyy8Zi",
   "nh2Zyyy7Zinh1eZyyy4Zinh3dZyyy15Zzzz46Grek7aZzzz14ZyyycZzzz14ZyyycZzzz57Zyyy9Zzzz19Zyyy87Zzzz55",
   "ZyyyZzzz47ZyyyZzzz2Zyyy2ZzzzZyyy2Zzzz2Zyyy2Zzzz4ZyyyZzzzcZyyyZzzzZyyyZzzz7ZyyyZzzz41ZyyyZzzz4Z",
   "yyy2Zzzz8ZyyyZzzz7ZyyyZzzz1cZyyyZzzz4ZyyyZzzz5ZyyyZzzzZyyy3Zzzz7ZyyyZzzz154Zyyy2Zzzz124Zyyy2Zz",
   "zz32Zyyy28cSgnwfZzzz5SgnwZzzzfSgnw450Zzzz1fLatn6Zzzz6Latnd5Zzzz7GlagZzzz11Glag2Zzzz7GlagZzzz2G",
   "lagZzzz5Glag5Zzzz3eCyrl21ZzzzCyrl70Zzzz2dHmnp3ZzzzeHmnp2ZzzzaHmnp4Zzzz2Hmnp140Zzzz1fToto11Zzzz",
   "3aWcho5ZzzzWcho1d0Zzzz2aNagmd6Zzzz2bOnao4ZzzzOnaoc0Zzzz1fTayoZzzz16Tayo8Zzzz2Tayoe0Zzzz7EthiZz",
   "zz4EthiZzzz2EthiZzzzfEthiZzzzc5Mend2Zzzz10Mend29Zzzz4cAdlm4ZzzzaAdlm4Zzzz2Adlm311Zzzz44Zyyy4cZ",
   "zzz3dZyyyc2Zzzz4ArabZzzz1bArabZzzz2ArabZzzzArab2ZzzzArabZzzzaArabZzzz4ArabZzzzArabZzzzArab6Zzz",
   "zArab4ZzzzArabZzzzArabZzzzArabZzzz3ArabZzzz2ArabZzzzArab2ZzzzArabZzzzArabZzzzArabZzzzArabZzzzA",
   "rabZzzz2ArabZzzzArab2Zzzz4ArabZzzz7ArabZzzz4ArabZzzz4ArabZzzzArabZzzzaArabZzzz11Arab5Zzzz3Arab",
   "Zzzz5ArabZzzz11Arab34Zzzz2Arab10eZzzz2cZyyy4Zzzz64ZyyycZzzzfZyyy2ZzzzfZyyyZzzzfZyyyZzzz25Zyyya",
   "ZzzzaeZyyy38Zzzz1aZyyyHira2ZyyydZzzz2cZyyy4Zzzz9Zyyy7Zzzz2ZyyyeZzzz6Zyyy9aZzzz3d9Zyyy3Zzzz11Zy",
   "yy3ZzzzdZyyy3ZzzzdaZyyy6ZzzzcZyyy4ZzzzZyyyfZzzzcZyyy4Zzzz38Zyyy8ZzzzaZyyy6Zzzz28Zyyy8Zzzz1eZyy",
   "y2ZzzzcZyyy4Zzzz2ZyyyeZzzz9Zyyy27Zzzz158Zyyy8ZzzzeZyyy2ZzzzdZyyy3ZzzzbZyyy3Zzzz39ZyyyZzzzZyyy4",
   "Zzzz10Zyyy2ZzzzcZyyy4ZzzzaZyyy7Zzzz93ZyyyZzzz67Zyyy405Zzzza6e0Hani20Zzzz111eHani2Zzzz168eHani2",
   "Zzzz1d31HanifZzzz26eHani9a2Zzzz21eHani5e2Zzzz134bHani5Zzzz212aHaniacb87ZzzzZyyy1eZzzz60Zyyy80Z",
   "zzzf0Zinh2fe10Zzzz"]

def runs : List (Nat × Script) :=
  (readRuns 4 none [] (runLines.flatMap String.toList)).map fun (n, code) => (n, ⟨String.ofList code⟩)

def of (c : Char) : Script :=
  findRun ⟨"Zzzz"⟩ c.toNat runs

/-- Code points used with other scripts than their own: first, last and the scripts' codes. -/
def sharedRows : List (Nat × Nat × String) :=
  [(0xb7, 0xb7, "Avst Cari Copt Dupl Elba Geor Glag Gong Goth Grek Hani Latn Lydi Mahj Perm Shaw"),
   (0x2bc, 0x2bc, "Beng Cyrl Deva Latn Lisu Thai Toto"),
   (0x2c7, 0x2c7, "Bopo Latn"),
   (0x2c9, 0x2cb, "Bopo Latn"),
   (0x2cd, 0x2cd, "Latn Lisu"),
   (0x2d7, 0x2d7, "Latn Thai"),
   (0x2d9, 0x2d9, "Bopo Latn"),
   (0x300, 0x300, "Cher Copt Cyrl Grek Latn Perm Sunu Tale"),
   (0x301, 0x301, "Cher Cyrl Grek Latn Osge Sunu Tale Todr"),
   (0x302, 0x302, "Cher Cyrl Latn Tfng"),
   (0x303, 0x303, "Glag Latn Sunu Syrc Thai"),
   (0x304, 0x304, "Aghb Cher Copt Cyrl Goth Grek Latn Osge Syrc Tfng Todr"),
   (0x305, 0x305, "Copt Elba Glag Goth Kana Latn"),
   (0x306, 0x306, "Cyrl Grek Latn Perm Tfng"),
   (0x307, 0x307, "Copt Dupl Hebr Latn Perm Syrc Tale Tfng Todr"),
   (0x308, 0x308, "Armn Cyrl Dupl Goth Grek Hebr Latn Perm Syrc Tale Tfng"),
   (0x309, 0x309, "Latn Tfng"),
   (0x30a, 0x30a, "Dupl Latn Syrc"),
   (0x30b, 0x30b, "Cher Cyrl Latn Osge"),
   (0x30c, 0x30c, "Cher Latn Tale"),
   (0x30d, 0x30d, "Latn Sunu"),
   (0x30e, 0x30e, "Ethi Latn"),
   (0x310, 0x310, "Latn Sunu"),
   (0x311, 0x311, "Cyrl Latn Todr"),
   (0x313, 0x313, "Grek Latn Perm Todr"),
   (0x323, 0x323, "Cher Dupl Kana Latn Syrc Tfng"),
   (0x324, 0x324, "Cher Dupl Latn Syrc"),
   (0x325, 0x325, "Latn Syrc"),
   (0x32d, 0x32d, "Latn Sunu Syrc"),
   (0x32e, 0x32e, "Latn Syrc"),
   (0x330, 0x330, "Cher Latn Syrc"),
   (0x331, 0x331, "Aghb Cher Goth Latn Sunu Syrc Thai"),
   (0x342, 0x342, "Grek"),
   (0x345, 0x345, "Grek"),
   (0x358, 0x358, "Latn Osge"),
   (0x35e, 0x35e, "Aghb Latn Todr"),
   (0x363, 0x36f, "Latn"),
   (0x374, 0x375, "Copt Grek"),
   (0x483, 0x483, "Cyrl Perm"),
   (0x484, 0x484, "Cyrl Glag"),
   (0x485, 0x486, "Cyrl Latn"),
   (0x487, 0x487, "Cyrl Glag"),
   (0x589, 0x589, "Armn Geor Glag"),
   (0x60c, 0x60c, "Arab Gara Nkoo Rohg Syrc Thaa Yezi"),
   (0x61b, 0x61b, "Arab Gara Nkoo Rohg Syrc Thaa Yezi"),
   (0x61c, 0x61c, "Arab Syrc Thaa"),
   (0x61f, 0x61f, "Adlm Arab Gara Nkoo Rohg Syrc Thaa Yezi"),
   (0x640, 0x640, "Adlm Arab Mand Mani Ougr Phlp Rohg Sogd Syrc"),
   (0x64b, 0x655, "Arab Syrc"),
   (0x660, 0x669, "Arab Thaa Yezi"),
   (0x670, 0x670, "Arab Syrc"),
   (0x6d4, 0x6d4, "Arab Rohg"),
   (0x951, 0x951, "Beng Deva Gran Gujr Guru Knda Latn Mlym Nand Newa Orya Shrd Taml Telu Tirh"),
   (0x952, 0x952, "Beng Deva Gran Gujr Guru Knda Latn Mlym Newa Orya Taml Telu Tirh"),
   (0x964, 0x964, "Beng Deva Dogr Gong Gonm Gran Gujr Guru Knda Mahj Mlym Nand Onao Orya Sind Sinh Sylo Takr Taml Telu Tirh"),
   (0x965, 0x965, "Beng Deva Dogr Gong Gonm Gran Gujr Gukh Guru Knda Limb Mahj Mlym Nand Onao Orya Sind Sinh Sylo Takr Taml Telu Tirh"),
   (0x966, 0x96f, "Deva Dogr Kthi Mahj"),
   (0x9e6, 0x9ef, "Beng Cakm Sylo"),
   (0xa66, 0xa6f, "Guru Mult"),
   (0xae6, 0xaef, "Gujr Khoj"),
   (0xbe6, 0xbf3, "Gran Taml"),
   (0xce6, 0xcef, "Knda Nand Tutg"),
   (0x1040, 0x1049, "Cakm Mymr Tale"),
   (0x10fb, 0x10fb, "Geor Glag Latn"),
   (0x16eb, 0x16ed, "Runr"),
   (0x1735, 0x1736, "Buhd Hano Tagb Tglg"),
   (0x1802, 0x1803, "Mong Phag"),
   (0x1805, 0x1805, "Mong Phag"),
   (0x1cd0, 0x1cd0, "Beng Deva Gran Knda"),
   (0x1cd1, 0x1cd1, "Deva"),
   (0x1cd2, 0x1cd2, "Beng Deva Gran Knda"),
   (0x1cd3, 0x1cd3, "Deva Gran Knda"),
   (0x1cd4, 0x1cd4, "Deva"),
   (0x1cd5, 0x1cd5, "Beng Deva Newa Telu Tirh"),
   (0x1cd6, 0x1cd6, "Beng Deva Telu"),
   (0x1cd7, 0x1cd7, "Deva Newa Shrd"),
   (0x1cd8, 0x1cd8, "Beng Deva Newa Telu"),
   (0x1cd9, 0x1cd9, "Deva Shrd"),
   (0x1cda, 0x1cda, "Deva Knda Mlym Orya Taml Telu"),
   (0x1cdb, 0x1cdb, "Deva"),
   (0x1cdc, 0x1cdd, "Deva Shrd"),
   (0x1cde, 0x1cdf, "Deva"),
   (0x1ce0, 0x1ce0, "Deva Shrd"),
   (0x1ce1, 0x1ce1, "Beng Deva"),
   (0x1ce2, 0x1ce2, "Deva Newa Tirh"),
   (0x1ce3, 0x1ce8, "Deva"),
   (0x1ce9, 0x1ce9, "Deva Nand Newa"),
   (0x1cea, 0x1cea, "Beng Deva Shrd"),
   (0x1ceb, 0x1ceb, "Deva Newa"),
   (0x1cec, 0x1cec, "Deva"),
   (0x1ced, 0x1ced, "Beng Deva Newa Shrd"),
   (0x1cee, 0x1cf1, "Deva"),
   (0x1cf2, 0x1cf2, "Beng Deva Gran Knda Mlym Nand Orya Sinh Telu Tirh Tutg"),
   (0x1cf3, 0x1cf3, "Deva Gran"),
   (0x1cf4, 0x1cf4, "Deva Gran Knda Tutg"),
   (0x1cf5, 0x1cf6, "Beng Deva"),
   (0x1cf7, 0x1cf7, "Beng"),
   (0x1cf8, 0x1cf9, "Deva Gran"),
   (0x1cfa, 0x1cfa, "Nand"),
   (0x1dc0, 0x1dc1, "Grek"),
   (0x1df8, 0x1df8, "Cyrl Latn Syrc"),
   (0x1dfa, 0x1dfa, "Syrc"),
   (0x202f, 0x202f, "Latn Mong Phag"),
   (0x204f, 0x204f, "Adlm Arab"),
   (0x205a, 0x205a, "Cari Geor Glag Hung Lyci Orkh"),
   (0x205d, 0x205d, "Cari Grek Hung Mero"),
   (0x20f0, 0x20f0, "Deva Gran Latn"),
   (0x2e17, 0x2e17, "Copt Latn"),
   (0x2e30, 0x2e30, "Avst Orkh"),
   (0x2e31, 0x2e31, "Avst Cari Geor Hung Kthi Lydi Samr"),
   (0x2e3c, 0x2e3c, "Dupl"),
   (0x2e41, 0x2e41, "Adlm Arab Hung"),
   (0x2e43, 0x2e43, "Cyrl Glag"),
   (0x2ff0, 0x2fff, "Hani Tang"),
   (0x3001, 0x3001, "Bopo Hang Hani Hira Kana Mong Yiii"),
   (0x3002, 0x3002, "Bopo Hang Hani Hira Kana Mong Phag Yiii"),
   (0x3003, 0x3003, "Bopo Hang Hani Hira Kana"),
   (0x3006, 0x3006, "Hani"),
   (0x3008, 0x3009, "Bopo Hang Hani Hira Kana Mong Tibt Yiii"),
   (0x300a, 0x300b, "Bopo Hang Hani Hira Kana Lisu Mong Tibt Yiii"),
   (0x300c, 0x3011, "Bopo Hang Hani Hira Kana Yiii"),
   (0x3013, 0x3013, "Bopo Hang Hani Hira Kana"),
   (0x3014, 0x301b, "Bopo Hang Hani Hira Kana Yiii"),
   (0x301c, 0x301f, "Bopo Hang Hani Hira Kana"),
   (0x302a, 0x302d, "Bopo Hani"),
   (0x3030, 0x3030, "Bopo Hang Hani Hira Kana"),
   (0x3031, 0x3035, "Hira Kana"),
   (0x3037, 0x3037, "Bopo Hang Hani Hira Kana"),
   (0x303c, 0x303d, "Hani Hira Kana"),
   (0x303e, 0x303f, "Hani"),
   (0x3099, 0x309c, "Hira Kana"),
   (0x30a0, 0x30a0, "Hira Kana"),
   (0x30fb, 0x30fb, "Bopo Hang Hani Hira Kana Yiii"),
   (0x30fc, 0x30fc, "Hira Kana"),
   (0x3190, 0x319f, "Hani"),
   (0x31c0, 0x31e5, "Hani"),
   (0x31ef, 0x31ef, "Hani Tang"),
   (0x3220, 0x3247, "Hani"),
   (0x3280, 0x32b0, "Hani"),
   (0x32c0, 0x32cb, "Hani"),
   (0x32ff, 0x32ff, "Hani"),
   (0x3358, 0x3370, "Hani"),
   (0x337b, 0x337f, "Hani"),
   (0x33e0, 0x33fe, "Hani"),
   (0xa66f, 0xa66f, "Cyrl Glag"),
   (0xa700, 0xa707, "Hani Latn"),
   (0xa830, 0xa832, "Deva Dogr Gujr Guru Khoj Knda Kthi Mahj Mlym Modi Nand Shrd Sind Takr Tirh Tutg"),
   (0xa833, 0xa835, "Deva Dogr Gujr Guru Khoj Knda Kthi Mahj Modi Nand Shrd Sind Takr Tirh Tutg"),
   (0xa836, 0xa837, "Deva Dogr Gujr Guru Khoj Kthi Mahj Modi Sind Takr Tirh"),
   (0xa838, 0xa838, "Deva Dogr Gujr Guru Khoj Kthi Mahj Modi Shrd Sind Takr Tirh"),
   (0xa839, 0xa839, "Deva Dogr Gujr Guru Khoj Kthi Mahj Modi Sind Takr Tirh"),
   (0xa8f1, 0xa8f1, "Beng Deva Tutg"),
   (0xa8f3, 0xa8f3, "Deva Taml"),
   (0xa92e, 0xa92e, "Kali Latn Mymr"),
   (0xa9cf, 0xa9cf, "Bugi Java"),
   (0xfd3e, 0xfd3f, "Arab Nkoo"),
   (0xfdf2, 0xfdf2, "Arab Thaa"),
   (0xfdfd, 0xfdfd, "Arab Thaa"),
   (0xfe45, 0xfe46, "Bopo Hang Hani Hira Kana"),
   (0xff61, 0xff65, "Bopo Hang Hani Hira Kana Yiii"),
   (0xff70, 0xff70, "Hira Kana"),
   (0xff9e, 0xff9f, "Hira Kana"),
   (0x10100, 0x10101, "Cpmn Cprt Linb"),
   (0x10102, 0x10102, "Cprt Linb"),
   (0x10107, 0x10133, "Cprt Lina Linb"),
   (0x10137, 0x1013f, "Cprt Linb"),
   (0x102e0, 0x102fb, "Arab Copt"),
   (0x10af2, 0x10af2, "Mani Ougr"),
   (0x11301, 0x11301, "Gran Taml"),
   (0x11303, 0x11303, "Gran Taml"),
   (0x1133b, 0x1133c, "Gran Taml"),
   (0x11fd0, 0x11fd1, "Gran Taml"),
   (0x11fd3, 0x11fd3, "Gran Taml"),
   (0x1bca0, 0x1bca3, "Dupl"),
   (0x1d360, 0x1d371, "Hani"),
   (0x1f250, 0x1f251, "Hani")]

def usedWith (s : Script) (c : Char) : Bool :=
  match sharedRows.find? (fun (first, last, _) => first ≤ c.toNat && c.toNat ≤ last) with
  | some (_, _, codes) => (codes.splitOn " ").contains s.code
  | none => of c == s

end Script

end Stencil.Unicode
