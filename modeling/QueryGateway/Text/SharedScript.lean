import QueryGateway.Text.Script

/-!
# Shared characters of scripts

Characters of the common and inherited scripts that are in use with a few
scripts only. Each entry gives the short name of a script and the shared
characters that it uses.
-/

namespace QueryGateway.Text

namespace Script

/-- The shared characters in use with a script, by its short name. -/
def sharedListing : List (String × List String) :=
  [("Adlm", ["61F 640"]),
   ("Arab", ["60C 61B 61F 640 64B-655 670 FD3E-FD3F 102E0-102FB"]),
   ("Beng", ["951-952 964-965 1CD0 1CD2 1CD5-1CD6 1CD8 1CE1 1CEA 1CED 1CF2 1CF5-1CF7 A8F1"]),
   ("Bopo", ["3001-3003 3008-3011 3013-301F 302A-302D 3030 3037 30FB FE45-FE46 FF61-FF65"]),
   ("Bugi", ["A9CF"]),
   ("Buhd", ["1735-1736"]),
   ("Cakm", ["9E6-9EF 1040-1049"]),
   ("Copt", ["102E0-102FB"]),
   ("Cprt", ["10100-10102 10107-10133 10137-1013F"]),
   ("Cpmn", ["10100-10101"]),
   ("Cyrl", ["485-486 1DF8 2E43"]),
   ("Deva", ["951-952 964-965 1CD0-1CF6 1CF8-1CF9 20F0 A830-A839"]),
   ("Dogr", ["964-96F A830-A839"]),
   ("Dupl", ["1BCA0-1BCA3"]),
   ("Geor", ["10FB"]),
   ("Glag", ["484 487 2E43 A66F"]),
   ("Gran", ["951-952 964-965 BE6-BF3 1CD0 1CD2-1CD3 1CF2-1CF4 1CF8-1CF9 20F0 1133B 11FD0-11FD1",
     "11FD3"]),
   ("Grek", ["342 345 1DC0-1DC1"]),
   ("Gujr", ["951-952 964-965 A830-A839"]),
   ("Gong", ["964-965"]),
   ("Guru", ["951-952 964-965 A830-A839"]),
   ("Hani", ["3001-3003 3006 3008-3011 3013-301F 302A-302D 3030 3037 303C-303F 30FB 3190-319F",
     "31C0-31E3 3220-3247 3280-32B0 32C0-32CB 32FF 3358-3370 337B-337F 33E0-33FE A700-A707",
     "FE45-FE46 FF61-FF65 1D360-1D371 1F250-1F251"]),
   ("Hang", ["3001-3003 3008-3011 3013-301F 3030 3037 30FB FE45-FE46 FF61-FF65"]),
   ("Rohg", ["60C 61B 61F 640 6D4"]),
   ("Hano", ["1735-1736"]),
   ("Hira", ["3001-3003 3008-3011 3013-301F 3030-3035 3037 303C-303D 3099-309C 30A0 30FB-30FC",
     "FE45-FE46 FF61-FF65 FF70 FF9E-FF9F"]),
   ("Java", ["A9CF"]),
   ("Kthi", ["966-96F A830-A839"]),
   ("Knda", ["951-952 964-965 1CD0 1CD2 1CDA 1CF2 1CF4 A830-A835"]),
   ("Kana", ["3001-3003 3008-3011 3013-301F 3030-3035 3037 303C-303D 3099-309C 30A0 30FB-30FC",
     "FE45-FE46 FF61-FF65 FF70 FF9E-FF9F"]),
   ("Kali", ["A92E"]),
   ("Khoj", ["AE6-AEF A830-A839"]),
   ("Sind", ["964-965 A830-A839"]),
   ("Latn", ["363-36F 485-486 951-952 10FB 202F 20F0 A700-A707 A92E"]),
   ("Limb", ["965"]),
   ("Lina", ["10107-10133"]),
   ("Linb", ["10100-10102 10107-10133 10137-1013F"]),
   ("Mahj", ["964-96F A830-A839"]),
   ("Mlym", ["951-952 964-965 1CDA A830-A832"]),
   ("Mand", ["640"]),
   ("Mani", ["640"]),
   ("Gonm", ["964-965"]),
   ("Modi", ["A830-A839"]),
   ("Mong", ["1802-1803 1805 202F"]),
   ("Mult", ["A66-A6F"]),
   ("Mymr", ["A92E"]),
   ("Nand", ["964-965 CE6-CEF 1CE9 1CF2 1CFA A830-A835"]),
   ("Nkoo", ["60C 61B 61F FD3E-FD3F"]),
   ("Perm", ["483"]),
   ("Ougr", ["640 10AF2"]),
   ("Orya", ["951-952 964-965 1CDA 1CF2"]),
   ("Phag", ["1802-1803 1805"]),
   ("Phlp", ["640"]),
   ("Shrd", ["951 1CD7 1CD9 1CDC-1CDD 1CE0"]),
   ("Sinh", ["964-965"]),
   ("Sogd", ["640"]),
   ("Sylo", ["964-965 9E6-9EF"]),
   ("Syrc", ["60C 61B-61C 61F 640 64B-655 670 1DF8 1DFA"]),
   ("Tglg", ["1735-1736"]),
   ("Tagb", ["1735-1736"]),
   ("Tale", ["1040-1049"]),
   ("Takr", ["964-965 A830-A839"]),
   ("Taml", ["951-952 964-965 1CDA A8F3 11301 11303 1133B-1133C"]),
   ("Telu", ["951-952 964-965 1CDA 1CF2"]),
   ("Thaa", ["60C 61B-61C 61F 660-669 FDF2 FDFD"]),
   ("Tirh", ["951-952 964-965 1CF2 A830-A839"]),
   ("Yezi", ["60C 61B 61F 660-669"]),
   ("Yiii", ["3001-3002 3008-3011 3014-301B 30FB FF61-FF65"])]

/-- The shared characters in use with the script. -/
def shared (s : Script) : CodeRanges :=
  .ofLines ((sharedListing.lookup s.shortName).getD [])

end Script

end QueryGateway.Text
