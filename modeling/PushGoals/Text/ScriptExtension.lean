import PushGoals.Text.Script

/-!
# Script extensions

Some characters are used with several scripts, most of them characters whose own
script is `Common` or `Inherited`.  They count for each script they are used with,
and all others for their own script only.
-/

namespace PushGoals.Text

/-- Characters that count for other scripts than their own, with these scripts. -/
def extensionTable : List (String × String) :=
  [("B7",
    "Avestan Carian Coptic Duployan Elbasan Georgian Glagolitic Gothic Greek " ++
    "Gunjala_Gondi Han Latin Lydian Mahajani Old_Permic Shavian"),
   ("2BC", "Bengali Cyrillic Devanagari Latin Lisu Thai Toto"),
   ("2C7 2C9-2CB 2D9", "Bopomofo Latin"),
   ("2CD", "Latin Lisu"),
   ("2D7", "Latin Thai"),
   ("300", "Cherokee Coptic Cyrillic Greek Latin Old_Permic Sunuwar Tai_Le"),
   ("301", "Cherokee Cyrillic Greek Latin Osage Sunuwar Tai_Le Todhri"),
   ("302", "Cherokee Cyrillic Latin Tifinagh"),
   ("303", "Glagolitic Latin Sunuwar Syriac Thai"),
   ("304",
    "Caucasian_Albanian Cherokee Coptic Cyrillic Gothic Greek Latin Osage Syriac " ++
    "Tifinagh Todhri"),
   ("305", "Coptic Elbasan Glagolitic Gothic Katakana Latin"),
   ("306", "Cyrillic Greek Latin Old_Permic"),
   ("307", "Coptic Duployan Hebrew Latin Old_Permic Syriac Tai_Le Tifinagh Todhri"),
   ("308", "Armenian Cyrillic Duployan Gothic Greek Hebrew Latin Old_Permic Syriac Tai_Le"),
   ("309", "Latin Tifinagh"),
   ("30A", "Duployan Latin Syriac"),
   ("30B", "Cherokee Cyrillic Latin Osage"),
   ("30C", "Cherokee Latin Tai_Le"),
   ("30D 310", "Latin Sunuwar"),
   ("30E", "Ethiopic Latin"),
   ("311", "Cyrillic Latin Todhri"),
   ("313", "Greek Latin Old_Permic Todhri"),
   ("320 325 32E", "Latin Syriac"),
   ("323", "Cherokee Duployan Katakana Latin Syriac"),
   ("324", "Cherokee Duployan Latin Syriac"),
   ("32D", "Latin Sunuwar Syriac"),
   ("330", "Cherokee Latin Syriac"),
   ("331", "Caucasian_Albanian Cherokee Gothic Latin Sunuwar Thai"),
   ("342 345 1DC0-1DC1", "Greek"),
   ("358", "Latin Osage"),
   ("35E", "Caucasian_Albanian Latin Todhri"),
   ("363-36F", "Latin"),
   ("374-375", "Coptic Greek"),
   ("483", "Cyrillic Old_Permic"),
   ("484 487 2E43 A66F", "Cyrillic Glagolitic"),
   ("485-486", "Cyrillic Latin"),
   ("589", "Armenian Georgian Glagolitic"),
   ("60C 61B", "Arabic Garay Hanifi_Rohingya Nko Syriac Thaana Yezidi"),
   ("61C", "Arabic Syriac Thaana"),
   ("61F", "Adlam Arabic Garay Hanifi_Rohingya Nko Syriac Thaana Yezidi"),
   ("640",
    "Adlam Arabic Hanifi_Rohingya Mandaic Manichaean Old_Uyghur Psalter_Pahlavi " ++
    "Sogdian Syriac"),
   ("64B-655 670", "Arabic Syriac"),
   ("660-669", "Arabic Thaana Yezidi"),
   ("6D4", "Arabic Hanifi_Rohingya"),
   ("951",
    "Bengali Devanagari Grantha Gujarati Gurmukhi Kannada Latin Malayalam Oriya " ++
    "Sharada Tamil Telugu Tirhuta"),
   ("952",
    "Bengali Devanagari Grantha Gujarati Gurmukhi Kannada Latin Malayalam Oriya Tamil " ++
    "Telugu Tirhuta"),
   ("964",
    "Bengali Devanagari Dogra Grantha Gujarati Gunjala_Gondi Gurmukhi Kannada " ++
    "Khudawadi Mahajani Malayalam Masaram_Gondi Nandinagari Ol_Onal Oriya Sinhala " ++
    "Syloti_Nagri Takri Tamil Telugu Tirhuta"),
   ("965",
    "Bengali Devanagari Dogra Grantha Gujarati Gunjala_Gondi Gurmukhi Gurung_Khema " ++
    "Kannada Khudawadi Limbu Mahajani Malayalam Masaram_Gondi Nandinagari Ol_Onal " ++
    "Oriya Sinhala Syloti_Nagri Takri Tamil Telugu Tirhuta"),
   ("966-96F", "Devanagari Dogra Kaithi Mahajani"),
   ("9E6-9EF", "Bengali Chakma Syloti_Nagri"),
   ("A66-A6F", "Gurmukhi Multani"),
   ("AE6-AEF", "Gujarati Khojki"),
   ("BE6-BF3 11301 11303 1133B-1133C 11FD0-11FD1 11FD3", "Grantha Tamil"),
   ("CE6-CEF", "Kannada Nandinagari Tulu_Tigalari"),
   ("1040-1049", "Chakma Myanmar Tai_Le"),
   ("10FB", "Georgian Glagolitic Latin"),
   ("16EB-16ED", "Runic"),
   ("1735-1736", "Buhid Hanunoo Tagalog Tagbanwa"),
   ("1802-1803 1805", "Mongolian Phags_Pa"),
   ("1CD0 1CD2", "Bengali Devanagari Grantha Kannada"),
   ("1CD1 1CD4 1CDB 1CDE-1CDF 1CE2-1CE8 1CEB-1CEC 1CEE-1CF1", "Devanagari"),
   ("1CD3", "Devanagari Grantha Kannada"),
   ("1CD5-1CD6 1CD8 1CE1 1CEA 1CED 1CF5-1CF6", "Bengali Devanagari"),
   ("1CD7 1CD9 1CDC-1CDD 1CE0", "Devanagari Sharada"),
   ("1CDA", "Devanagari Kannada Malayalam Oriya Tamil Telugu"),
   ("1CE9", "Devanagari Nandinagari"),
   ("1CF2",
    "Bengali Devanagari Grantha Kannada Malayalam Nandinagari Oriya Sinhala Telugu " ++
    "Tirhuta Tulu_Tigalari"),
   ("1CF3 1CF8-1CF9", "Devanagari Grantha"),
   ("1CF4", "Devanagari Grantha Kannada Tulu_Tigalari"),
   ("1CF7", "Bengali"),
   ("1CFA", "Nandinagari"),
   ("1DF8", "Cyrillic Latin Syriac"),
   ("1DFA", "Syriac"),
   ("202F", "Latin Mongolian Phags_Pa"),
   ("204F", "Adlam Arabic"),
   ("205A", "Carian Georgian Glagolitic Lycian Old_Hungarian Old_Turkic"),
   ("205D", "Carian Greek Meroitic_Hieroglyphs Old_Hungarian"),
   ("20F0", "Devanagari Grantha Latin"),
   ("2E17", "Coptic Latin"),
   ("2E30", "Avestan Old_Turkic"),
   ("2E31", "Avestan Carian Georgian Kaithi Lydian Old_Hungarian Samaritan"),
   ("2E3C 1BCA0-1BCA3", "Duployan"),
   ("2E41", "Adlam Arabic Old_Hungarian"),
   ("2FF0-2FFF 31EF", "Han Tangut"),
   ("3001", "Bopomofo Han Hangul Hiragana Katakana Mongolian Yi"),
   ("3002", "Bopomofo Han Hangul Hiragana Katakana Mongolian Phags_Pa Yi"),
   ("3003 3013 301C-301F 3030 3037 FE45-FE46", "Bopomofo Han Hangul Hiragana Katakana"),
   ("3006 303E-303F 3190-319F 31C0-31E5 3220-3247 3280-32B0 32C0-32CB 32FF 3358-3370 " ++
    "337B-337F 33E0-33FE 1D360-1D371 1F250-1F251",
    "Han"),
   ("3008-3009", "Bopomofo Han Hangul Hiragana Katakana Mongolian Tibetan Yi"),
   ("300A-300B", "Bopomofo Han Hangul Hiragana Katakana Lisu Mongolian Tibetan Yi"),
   ("300C-3011 3014-301B 30FB FF61-FF65", "Bopomofo Han Hangul Hiragana Katakana Yi"),
   ("302A-302D", "Bopomofo Han"),
   ("3031-3035 3099-309C 30A0 30FC FF70 FF9E-FF9F", "Hiragana Katakana"),
   ("303C-303D", "Han Hiragana Katakana"),
   ("A700-A707", "Han Latin"),
   ("A830-A832",
    "Devanagari Dogra Gujarati Gurmukhi Kaithi Kannada Khojki Khudawadi Mahajani " ++
    "Malayalam Modi Nandinagari Sharada Takri Tirhuta Tulu_Tigalari"),
   ("A833-A835",
    "Devanagari Dogra Gujarati Gurmukhi Kaithi Kannada Khojki Khudawadi Mahajani Modi " ++
    "Nandinagari Sharada Takri Tirhuta Tulu_Tigalari"),
   ("A836-A837 A839",
    "Devanagari Dogra Gujarati Gurmukhi Kaithi Khojki Khudawadi Mahajani Modi Takri " ++
    "Tirhuta"),
   ("A838",
    "Devanagari Dogra Gujarati Gurmukhi Kaithi Khojki Khudawadi Mahajani Modi Sharada " ++
    "Takri Tirhuta"),
   ("A8F1", "Bengali Devanagari Tulu_Tigalari"),
   ("A8F3", "Devanagari Tamil"),
   ("A92E", "Kayah_Li Latin Myanmar"),
   ("A9CF", "Buginese Javanese"),
   ("FD3E-FD3F", "Arabic Nko"),
   ("FDF2 FDFD", "Arabic Thaana"),
   ("10100-10101", "Cypriot Cypro_Minoan Linear_B"),
   ("10102 10137-1013F", "Cypriot Linear_B"),
   ("10107-10133", "Cypriot Linear_A Linear_B"),
   ("102E0-102FB", "Arabic Coptic"),
   ("10AF2", "Manichaean Old_Uyghur")]

/-- The characters that count for other scripts than their own. -/
def extended : CharSet :=
  .ofTable (extensionTable.map (·.1))

/-- The characters that count for a script. -/
def CharSet.usedWithScript (script : String) : CharSet :=
  let uses := (extensionTable.filter (fun e => (e.2.splitOn " ").contains script)).map (·.1)
  ((ofScript script).difference extended).union (.ofTable uses)

end PushGoals.Text
