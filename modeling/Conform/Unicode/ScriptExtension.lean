import Conform.Unicode.Script
import Conform.Unicode.Table

namespace Conform.Unicode.ScriptExtension

/-- Scripts by their short names, with the characters that these scripts and no others use. -/
def shared : List (List String × String) :=
  [(["grek"],
      "342 345 1DC0-1DC1"),
    (["latn"],
      "363-36F"),
    (["cyrl", "perm"],
      "483"),
    (["cyrl", "glag"],
      "484 487 2E43 A66F"),
    (["cyrl", "latn"],
      "485-486"),
    (["arab", "nkoo", "rohg", "syrc", "thaa", "yezi"],
      "60C 61B"),
    (["arab", "syrc", "thaa"],
      "61C"),
    (["adlm", "arab", "nkoo", "rohg", "syrc", "thaa", "yezi"],
      "61F"),
    (["adlm", "arab", "mand", "mani", "ougr", "phlp", "rohg", "sogd", "syrc"],
      "640"),
    (["arab", "syrc"],
      "64B-655 670"),
    (["arab", "thaa", "yezi"],
      "660-669"),
    (["arab", "rohg"],
      "6D4"),
    (["beng", "deva", "gran", "gujr", "guru", "knda", "latn", "mlym", "orya", "shrd", "taml",
       "telu", "tirh"],
      "951"),
    (["beng", "deva", "gran", "gujr", "guru", "knda", "latn", "mlym", "orya", "taml", "telu",
       "tirh"],
      "952"),
    (["beng", "deva", "dogr", "gong", "gonm", "gran", "gujr", "guru", "knda", "mahj", "mlym",
       "nand", "orya", "sind", "sinh", "sylo", "takr", "taml", "telu", "tirh"],
      "964"),
    (["beng", "deva", "dogr", "gong", "gonm", "gran", "gujr", "guru", "knda", "limb", "mahj",
       "mlym", "nand", "orya", "sind", "sinh", "sylo", "takr", "taml", "telu", "tirh"],
      "965"),
    (["deva", "dogr", "kthi", "mahj"],
      "966-96F"),
    (["beng", "cakm", "sylo"],
      "9E6-9EF"),
    (["guru", "mult"],
      "A66-A6F"),
    (["gujr", "khoj"],
      "AE6-AEF"),
    (["gran", "taml"],
      "BE6-BF3 11301 11303 1133B-1133C 11FD0-11FD1 11FD3"),
    (["knda", "nand"],
      "CE6-CEF"),
    (["cakm", "mymr", "tale"],
      "1040-1049"),
    (["geor", "latn"],
      "10FB"),
    (["buhd", "hano", "tagb", "tglg"],
      "1735-1736"),
    (["mong", "phag"],
      "1802-1803 1805"),
    (["beng", "deva", "gran", "knda"],
      "1CD0 1CD2"),
    (["deva"],
      "1CD1 1CD4 1CDB 1CDE-1CDF 1CE2-1CE8 1CEB-1CEC 1CEE-1CF1"),
    (["deva", "gran"],
      "1CD3 1CF3 1CF8-1CF9"),
    (["beng", "deva"],
      "1CD5-1CD6 1CD8 1CE1 1CEA 1CED 1CF5-1CF6 A8F1"),
    (["deva", "shrd"],
      "1CD7 1CD9 1CDC-1CDD 1CE0"),
    (["deva", "knda", "mlym", "orya", "taml", "telu"],
      "1CDA"),
    (["deva", "nand"],
      "1CE9"),
    (["beng", "deva", "gran", "knda", "nand", "orya", "telu", "tirh"],
      "1CF2"),
    (["deva", "gran", "knda"],
      "1CF4"),
    (["beng"],
      "1CF7"),
    (["nand"],
      "1CFA"),
    (["cyrl", "syrc"],
      "1DF8"),
    (["syrc"],
      "1DFA"),
    (["latn", "mong"],
      "202F"),
    (["deva", "gran", "latn"],
      "20F0"),
    (["bopo", "hang", "hani", "hira", "kana", "yiii"],
      "3001-3002 3008-3011 3014-301B 30FB FF61-FF65"),
    (["bopo", "hang", "hani", "hira", "kana"],
      "3003 3013 301C-301F 3030 3037 FE45-FE46"),
    (["hani"],
      "3006 303E-303F 3190-319F 31C0-31E3 3220-3247 3280-32B0 32C0-32CB 32FF 3358-3370 337B-337F
      33E0-33FE 1D360-1D371 1F250-1F251"),
    (["bopo", "hani"],
      "302A-302D"),
    (["hira", "kana"],
      "3031-3035 3099-309C 30A0 30FC FF70 FF9E-FF9F"),
    (["hani", "hira", "kana"],
      "303C-303D"),
    (["hani", "latn"],
      "A700-A707"),
    (["deva", "dogr", "gujr", "guru", "khoj", "knda", "kthi", "mahj", "mlym", "modi", "nand",
       "sind", "takr", "tirh"],
      "A830-A832"),
    (["deva", "dogr", "gujr", "guru", "khoj", "knda", "kthi", "mahj", "modi", "nand", "sind",
       "takr", "tirh"],
      "A833-A835"),
    (["deva", "dogr", "gujr", "guru", "khoj", "kthi", "mahj", "modi", "sind", "takr", "tirh"],
      "A836-A839"),
    (["deva", "taml"],
      "A8F3"),
    (["kali", "latn", "mymr"],
      "A92E"),
    (["bugi", "java"],
      "A9CF"),
    (["arab", "nkoo"],
      "FD3E-FD3F"),
    (["arab", "thaa"],
      "FDF2 FDFD"),
    (["cpmn", "cprt", "linb"],
      "10100-10101"),
    (["cprt", "linb"],
      "10102 10137-1013F"),
    (["cprt", "lina", "linb"],
      "10107-10133"),
    (["arab", "copt"],
      "102E0-102FB"),
    (["mani", "ougr"],
      "10AF2"),
    (["dupl"],
      "1BCA0-1BCA3")]

def used (names : List String) (own : Ranges) : Ranges :=
  let listed := shared.map fun entry => (entry.1, Table.ranges entry.2)
  Ranges.union (Ranges.difference own (Ranges.unions (listed.map (·.2))))
    (Ranges.unions ((listed.filter fun entry => entry.1.any names.contains).map (·.2)))

end Conform.Unicode.ScriptExtension
