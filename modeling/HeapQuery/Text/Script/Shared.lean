namespace HeapQuery.Text.Script

/-- Characters that are used in several scripts or in another one than their own, with the names of
these scripts. -/
def shared : List (String × List String) := [
  ("342 345 1dc0-1dc1", ["greek"]),
  ("363-36f", ["latin"]),
  ("483", ["cyrillic", "oldpermic"]),
  ("484 487 2e43 a66f", ["cyrillic", "glagolitic"]),
  ("485-486", ["cyrillic", "latin"]),
  ("60c 61b", ["arabic", "hanifirohingya", "nko", "syriac", "thaana", "yezidi"]),
  ("61c", ["arabic", "syriac", "thaana"]),
  ("61f", ["adlam", "arabic", "hanifirohingya", "nko", "syriac", "thaana", "yezidi"]),
  ("640",
    ["adlam", "arabic", "hanifirohingya", "mandaic", "manichaean", "olduyghur", "psalterpahlavi",
    "sogdian", "syriac"]),
  ("64b-655 670", ["arabic", "syriac"]),
  ("660-669", ["arabic", "thaana", "yezidi"]),
  ("6d4", ["arabic", "hanifirohingya"]),
  ("951",
    ["bengali", "devanagari", "grantha", "gujarati", "gurmukhi", "kannada", "latin", "malayalam",
    "oriya", "sharada", "tamil", "telugu", "tirhuta"]),
  ("952",
    ["bengali", "devanagari", "grantha", "gujarati", "gurmukhi", "kannada", "latin", "malayalam",
    "oriya", "tamil", "telugu", "tirhuta"]),
  ("964",
    ["bengali", "devanagari", "dogra", "grantha", "gujarati", "gunjalagondi", "gurmukhi",
    "kannada", "khudawadi", "mahajani", "malayalam", "masaramgondi", "nandinagari", "oriya",
    "sinhala", "sylotinagri", "takri", "tamil", "telugu", "tirhuta"]),
  ("965",
    ["bengali", "devanagari", "dogra", "grantha", "gujarati", "gunjalagondi", "gurmukhi",
    "kannada", "khudawadi", "limbu", "mahajani", "malayalam", "masaramgondi", "nandinagari",
    "oriya", "sinhala", "sylotinagri", "takri", "tamil", "telugu", "tirhuta"]),
  ("966-96f", ["devanagari", "dogra", "kaithi", "mahajani"]),
  ("9e6-9ef", ["bengali", "chakma", "sylotinagri"]),
  ("a66-a6f", ["gurmukhi", "multani"]),
  ("ae6-aef", ["gujarati", "khojki"]),
  ("be6-bf3 11301 11303 1133b-1133c 11fd0-11fd1 11fd3", ["grantha", "tamil"]),
  ("ce6-cef", ["kannada", "nandinagari"]),
  ("1040-1049", ["chakma", "myanmar", "taile"]),
  ("10fb", ["georgian", "latin"]),
  ("1735-1736", ["buhid", "hanunoo", "tagalog", "tagbanwa"]),
  ("1802-1803 1805", ["mongolian", "phagspa"]),
  ("1cd0 1cd2", ["bengali", "devanagari", "grantha", "kannada"]),
  ("1cd1 1cd4 1cdb 1cde-1cdf 1ce2-1ce8 1ceb-1cec 1cee-1cf1", ["devanagari"]),
  ("1cd3 1cf3 1cf8-1cf9", ["devanagari", "grantha"]),
  ("1cd5-1cd6 1cd8 1ce1 1cea 1ced 1cf5-1cf6 a8f1", ["bengali", "devanagari"]),
  ("1cd7 1cd9 1cdc-1cdd 1ce0", ["devanagari", "sharada"]),
  ("1cda", ["devanagari", "kannada", "malayalam", "oriya", "tamil", "telugu"]),
  ("1ce9", ["devanagari", "nandinagari"]),
  ("1cf2",
    ["bengali", "devanagari", "grantha", "kannada", "nandinagari", "oriya", "telugu", "tirhuta"]),
  ("1cf4", ["devanagari", "grantha", "kannada"]),
  ("1cf7", ["bengali"]),
  ("1cfa", ["nandinagari"]),
  ("1df8", ["cyrillic", "syriac"]),
  ("1dfa", ["syriac"]),
  ("202f", ["latin", "mongolian"]),
  ("20f0", ["devanagari", "grantha", "latin"]),
  ("3001-3002 3008-3011 3014-301b 30fb ff61-ff65",
    ["bopomofo", "han", "hangul", "hiragana", "katakana", "yi"]),
  ("3003 3013 301c-301f 3030 3037 fe45-fe46",
    ["bopomofo", "han", "hangul", "hiragana", "katakana"]),
  ("
    3006 303e-303f 3190-319f 31c0-31e3 3220-3247 3280-32b0 32c0-32cb 32ff 3358-3370 337b-337f
    33e0-33fe 1d360-1d371 1f250-1f251",
    ["han"]),
  ("302a-302d", ["bopomofo", "han"]),
  ("3031-3035 3099-309c 30a0 30fc ff70 ff9e-ff9f", ["hiragana", "katakana"]),
  ("303c-303d", ["han", "hiragana", "katakana"]),
  ("a700-a707", ["han", "latin"]),
  ("a830-a832",
    ["devanagari", "dogra", "gujarati", "gurmukhi", "kaithi", "kannada", "khojki", "khudawadi",
    "mahajani", "malayalam", "modi", "nandinagari", "takri", "tirhuta"]),
  ("a833-a835",
    ["devanagari", "dogra", "gujarati", "gurmukhi", "kaithi", "kannada", "khojki", "khudawadi",
    "mahajani", "modi", "nandinagari", "takri", "tirhuta"]),
  ("a836-a839",
    ["devanagari", "dogra", "gujarati", "gurmukhi", "kaithi", "khojki", "khudawadi", "mahajani",
    "modi", "takri", "tirhuta"]),
  ("a8f3", ["devanagari", "tamil"]),
  ("a92e", ["kayahli", "latin", "myanmar"]),
  ("a9cf", ["buginese", "javanese"]),
  ("fd3e-fd3f", ["arabic", "nko"]),
  ("fdf2 fdfd", ["arabic", "thaana"]),
  ("10100-10101", ["cypriot", "cyprominoan", "linearb"]),
  ("10102 10137-1013f", ["cypriot", "linearb"]),
  ("10107-10133", ["cypriot", "lineara", "linearb"]),
  ("102e0-102fb", ["arabic", "coptic"]),
  ("10af2", ["manichaean", "olduyghur"]),
  ("1bca0-1bca3", ["duployan"])]

end HeapQuery.Text.Script
