/-!
# Script extensions

The code points that each script uses, where they are not just those that belong to it. Ranges are
written as in the table of general categories.

## Main definitions

* `ImportAtlas.Unicode.scriptExtensionTexts`: the ranges by the name of the script.
-/

namespace ImportAtlas.Unicode

/-- The ranges of each script that differs from the script itself. -/
def scriptExtensionTexts : List (String × String) :=
  [("Adlam",
    "61f 20 1a0e df1 1babe+4b 4+9 4+1"),
   ("Caucasian_Albanian",
    "304 2c 2c 101d1+33 b"),
   ("Arabic",
    "600+4 1+d6 1+21 50+2f f0+1e 1+1 5+4a 1+1c 174f df1 cd0e+72 10+1bc 2+35 7 20+f 70+4 1+86
     3e3+1b b64+1e 43+2 37+3 df00+3 1+1a 1+1 1 2 1+9 1+3 1 1 6 4 1 1 1+2 1+1 1 2 1 1 1 1 1+1 1
     2+3 1+6 1+3 1+3 1 1+9 1+10 5+2 1+4 1+10 34+1"),
   ("Armenian",
    "308 228+25 2+31 2+2 f583+4"),
   ("Avestan",
    "b7 2d78+1 dcce+35 3+6"),
   ("Bengali",
    "2bc 694+1 11+1 1a+3 1+7 2+1 2+15 1+6 1 3+3 2+8 2+1 2+3 8 4+1 1+4 2+18 12d1 1 2+1 1 8 8 2
     4 2+2 8bf9"),
   ("Bopomofo",
    "2c7 1+2 d 10+1 2d15+2 4+9 1+c a+3 2 6 c3 9+2a 70+1f cc85+1 11a+4"),
   ("Buginese",
    "1a00+1b 2+1 8faf"),
   ("Buhid",
    "1735+1 9+13"),
   ("Chakma",
    "9e6+9 650+9 100b6+34 1+11"),
   ("Carian",
    "b7 1fa2 2 dd3 d46e+30"),
   ("Cherokee",
    "300+2 1 6+1 16+1 b+1 106e+55 2+5 9772+4f"),
   ("Coptic",
    "b7 248 3+1 1 6c+1 6c+d 2890+73 5+6 117 d4c8+1b"),
   ("Cypro_Minoan",
    "10100+1 2e8e+62"),
   ("Cypriot",
    "10100+2 4+2c 3+8 6c0+5 2 1+2b 1+1 3 2"),
   ("Cyrillic",
    "2bc 43+2 1 1 1 2 5 ee+12f 1750+a a0 4c 7f fe7+1f 43 77fc+5f 578e+1 e200+3d 21"),
   ("Devanagari",
    "2bc 643+52 2+2a 1350+26 1+1 3f6 873f+9 a6+1f 7200+9"),
   ("Dogra",
    "964+b 9ec0+9 6fc6+3b"),
   ("Duployan",
    "b7 24f+1 1 18+1 2b17 18dc3+6a 5+c 3+8 7+9 2+7"),
   ("Elbasan",
    "b7 24d 101fa+27"),
   ("Ethiopic",
    "30e ef1+48 1+3 2+6 1 1+3 2+28 1+3 2+20 1+3 2+6 1 1+3 2+e 1+38 1+3 2+42 2+1f 3+19 19e6+16
     9+6 1+6 1+6 1+6 1+6 1+6 1+6 1+6 7d22+5 2+5 2+5 9+6 1+6 13cb1+6 1+3 1+1 1+e"),
   ("Georgian",
    "b7 4d1 b16+25 1 5 2+2f b90+2a 2+2 39a ca5+25 1 5 103"),
   ("Glagolitic",
    "b7 24b 1 17e 2 101 b71 f5e ba5+5f 1e3 782b 13990+6 1+10 2+6 1+1 1+4"),
   ("Gunjala_Gondi",
    "b7 8ac+1 113fa+5 1+1 1+24 1+1 1+5 7+9"),
   ("Masaram_Gondi",
    "964+1 1139a+6 1+1 1+2b 3 1+1 1+8 8+9"),
   ("Gothic",
    "b7 24c+1 2 28 fffe+1a"),
   ("Grantha",
    "951+1 11+1 280+d 10dc 1+1 1e+2 3+1 3f6 f20f+3 1+7 2+1 2+15 1+6 1+1 1+4 1+9 2+1 2+2 2 6
     5+6 2+6 3+4 c5b+1 1"),
   ("Greek",
    "b7 248+1 2 1 1 a 2e 2 2a+7 2+3 1 4 1 1+2 1 1+13 1+3e e+f 1926+4 32+4 4+4 54+2 13e+15 2+5
     2+25 2+5 2+7 1 1 1 1+1e 2+34 1+e 1+d 2+5 1+12 2+2 1+8 5e c8 8a3e 55da+4e 11 d05f+45"),
   ("Gujarati",
    "951+1 11+1 11b+2 1+8 1+2 1+15 1+6 1+1 1+4 2+9 1+2 1+2 2 f+3 2+b 7+6 9d30+9"),
   ("Gurmukhi",
    "951+1 11+1 9b+2 1+5 4+1 2+15 1+6 1+1 1+1 1+1 2 1+4 4+1 2+2 3 7+3 1 7+10 9db9+9"),
   ("Hangul",
    "1100+ff 1e01+2 4+9 1+c e+2 6 c3 35+5d 71+1e 41+1e 76e1+1c 283+2ba3 c+16 4+30 2649+1 11a+4
     3a+1e 3+5 2+5 2+5 2+2"),
   ("Han",
    "b7 2dc8+19 1+58 c+d5 1a+f 1+2 1+c 1+c 1+c 2 6+8 bb 94+f 20+25 9 30+27 38+30 f+b 33 58+18
     a+4 60+1e 1+19bf 40+51ff 700+7 51f8+16d 2+69 36b+1 11a+4 707c+1 c+1 636e+11 1ede+1
     dae+a6df 20+1039 6+dd 2+1681 e+1d30 f+26d 9a2+21d 5e2+134a 5+105f"),
   ("Hanunoo",
    "1720+16"),
   ("Hebrew",
    "307+1 288+36 8+1a 4+5 f528+19 1+4 1 1+1 1+1 1+9"),
   ("Hiragana",
    "3001+2 4+9 1+c 10+5 1 4+1 3+55 2+7 5a+1 cd48+1 11a+4 a 2d+1 b061+11e 12 1d+2 40ad"),
   ("Old_Hungarian",
    "205a 2 dd3 f de3e+32 d+32 7+5"),
   ("Javanese",
    "a980+4d 1+a 4+1"),
   ("Kayah_Li",
    "a900+2f"),
   ("Katakana",
    "305 1d 2cdd+2 4+9 1+c 10+5 1 4+1 5b+3 3+5f f0+f d0+2e 1+57 caed+1 11a+3e b050+3 1+6 1+1 1
     11f+2 32 e+3"),
   ("Khojki",
    "ae6+9 9d40+9 69c6+11 1+2e"),
   ("Kannada",
    "951+1 11+1 31a+c 1+2 1+16 1+9 1+4 2+8 1+2 1+3 7+1 6+1 1+3 2+9 1+2 fdc 1+1 6 17 1 8b3b+5"),
   ("Kaithi",
    "966+9 24c1 79fe+9 6846+42 a"),
   ("Latin",
    "41+19 6+19 2f c 2 5+16 1+1e 1+1c0 3 a 1+2 1 9 1 6+4 1b+e 1+1 1 f+2 7+1 1+1 26 5 4+c 115+1
     4ca+1 7a8 c04+25 6+30 5+3 5+c 1+45 39 7+ff 12f 41 d 10+c 53 39+1 6 1b 11+28 ad7+1f 197
     78e8+7 1a+65 3+42 2+1 1 1+7 15+d 12e 201+2a 1+8 1+3 4f96+6 41a+19 6+19 825+5 1+29 1+8
     d745+1e 6+5"),
   ("Limbu",
    "965 f9a+1e 1+b 4+b 4 3+b"),
   ("Linear_A",
    "10107+2c 4cc+136 9+15 a+7"),
   ("Linear_B",
    "10000+b 1+19 1+12 1+1 1+e 2+d 22+7a 5+2 4+2c 3+8"),
   ("Lisu",
    "2bc 10 2d3c+1 74c4+2f 7ab0"),
   ("Lycian",
    "205a e225+1c"),
   ("Lydian",
    "b7 2d79 daee+19 5"),
   ("Mahajani",
    "b7 8ac+b 9ec0+9 6916+26"),
   ("Mandaic",
    "640 1ff+1b 2"),
   ("Manichaean",
    "640 1047f+26 4+b"),
   ("Meroitic_Hieroglyphs",
    "205d e922+1f"),
   ("Malayalam",
    "951+1 11+1 39a+c 1+2 1+32 1+2 1+5 4+f 2+19 f5a 17 8b3d+2"),
   ("Modi",
    "a830+9 6dc6+44 b+9"),
   ("Mongolian",
    "1800+19 6+58 7+2a 784 fd1+1 5+3 e654+c"),
   ("Multani",
    "a66+9 10810+6 1 1+3 1+e 1+a"),
   ("Myanmar",
    "1000+9f 988e b1+1e 61+1f 6c50+13"),
   ("Nandinagari",
    "951 12+1 380+9 ff9 8 7 8b35+5 716a+7 2+2d 2+a"),
   ("Newa",
    "951+1 1382 1+1 9 6 1 1 f712+5b 1+4"),
   ("Nko",
    "60c e 3 1a0+3a 2+2 f53e+1"),
   ("Old_Turkic",
    "205a dd5 ddcf+48"),
   ("Oriya",
    "951+1 11+1 19b+2 1+7 2+1 2+15 1+6 1+1 1+4 2+8 2+1 2+2 7+2 4+1 1+4 2+11 1162 17"),
   ("Osage",
    "301 2 6 4c 10157+23 4+23"),
   ("Old_Uyghur",
    "640 104b1 47d+19"),
   ("Old_Permic",
    "b7 248 5+2 a 16f fecc+2a"),
   ("Phags_Pa",
    "1802+1 1 829 fd2 783d+37"),
   ("Psalter_Pahlavi",
    "640 1053f+11 7+3 c+6"),
   ("Hanifi_Rohingya",
    "60c e 3 20 93 1062b+27 8+9"),
   ("Runic",
    "16a0+58"),
   ("Samaritan",
    "800+2d 2+e 25f2"),
   ("Shavian",
    "b7 10398+2f"),
   ("Sharada",
    "951 1385 1 2+1 2 9 2 8b42+5 2 6947+5f"),
   ("Khudawadi",
    "964+1 9eca+9 6a76+3a 5+9"),
   ("Sinhala",
    "964+1 41b+2 1+11 3+17 1+8 1 2+6 3 4+5 1 1+7 6+9 2+2 efd f4ee+13"),
   ("Sogdian",
    "640 108ef+29"),
   ("Syloti_Nagri",
    "964+1 80+9 9e10+2c"),
   ("Syriac",
    "303+1 2+1 1 18+2 7+1 1+1 2da e+1 2 20 a+a 1a 8f+d 1+3b 2+2 110+a 158d 1"),
   ("Tagbanwa",
    "1735+1 29+c 1+2 1+1"),
   ("Takri",
    "964+1 9eca+9 6e46+39 6+9"),
   ("Tai_Le",
    "300+1 5+1 3 d33+9 906+1d 2+4"),
   ("Tamil",
    "951+1 11+1 21c+1 1+5 3+2 1+3 3+1 1 1+1 3+1 3+2 3+b 4+4 3+2 1+3 2 6 e+14 10df 8c18 6a0d 1
     37+1 c83+31 d"),
   ("Tangut",
    "2ff0+f 1ef 13df0 1f+17f7 8+2ff 200+8"),
   ("Telugu",
    "951+1 11+1 29a+c 1+2 1+16 1+f 2+8 1+2 1+3 7+1 1+2 2 2+3 2+9 7+8 1055+1 1 1 17"),
   ("Tifinagh",
    "302 1 1+3 19 2a0c+37 7+1 e"),
   ("Tagalog",
    "1700+15 9 15+1"),
   ("Thaana",
    "60c e+1 2 40+9 116+31 f640 a"),
   ("Thai",
    "2bc 1a 2b 2d acf+39 5+1b"),
   ("Tibetan",
    "f00+47 1+23 4+26 1+23 1+e 1+6 4+1 202d+3"),
   ("Tirhuta",
    "951+1 11+1 136f c f 8b3d+9 6c46+47 8+9"),
   ("Toto",
    "2bc 1dfd3+1e"),
   ("Yezidi",
    "60c e 3 40+9 10816+29 1+2 2+1"),
   ("Yi",
    "3001+1 5+9 2+7 df 6f04+48c 3+36 5a9a+4"),
   ("Inherited",
    "30f 2 1+e 3+6 2 2+f 1+1 1+11 1+4 1+3 5f0+1 115b+1e 2f3+35 1 1+4 20c+1 c2+1f dd10+f 10+d
     3cf cd02+2d 2+16 220+2 11+7 2+6 1e+3 c2f52+ef"),
   ("Common",
    "0+40 1a+5 1a+2e 1+b 1+1 1+4 17 1f 1c1+2 1+9 1 3 1+8 1 1+5 5+4 2+13 7e 6 1 27d d7 204 55c
     195+3 1027+b 2+20 1+1e 1+9 1+1 1+6 1+a 3+a 1+e 11+20 3f+25 1+2 2+5 1+1a 1+10 29+2 4+299
     16+a 15+39f 100+273 2+1f 1+68 200+16 1+17 2+9 1+3 1 1+19 1a2 3 d d 15 211+17 1f 31+e c+3
     a1+9 5+5f 1f 19c0+3f 5908+19 66+2 3d0 e+1 52a4+9 16+14 2+b 1+12 1+3 93 1+1f 1a+5 1a+5
     7f+6 1+6 a+4 192+c 33+2c ca03+f9 6+1b3 9c+73 3c+f5 a+26 2+3d 3+10 8+1 7+1d 4+3c d5+13
     c+13 c+56 1b+6 87+54 1+46 1+1 2 2+1 2+3 1+b 1 1+6 1+40 1+3 2+7 1+6 1+1b 1+3 1+4 1 3+6
     1+153 2+123 2+31 1471+43 4c+3c 2c2+2b 4+63 c+e 2+e 1+e 1+24 a+ad 38+19 1+1 d+2b 4+8 17+5
     9a+3d7 4+10 3+c 3+76 4+5e 6+b 4 f+b 4+37 8+9 6+27 8+1d 2+b 4+1 3e+153 c+d 2+c 3+9 5+37
     7+e 2+a 6+8 7+92 1+65 c0407 1e+5f"),
   ("Garay",
    "60c e 3 10720+25 3+1c 8+1"),
   ("Gurung_Khema",
    "965 1579a+39"),
   ("Ol_Onal",
    "964+1 1dc6a+2a 4"),
   ("Sunuwar",
    "300+1 1 9 2 1c 3 1188e+21 e+9"),
   ("Todhri",
    "301 2 2 9 1 4a 10261+33"),
   ("Tulu_Tigalari",
    "ce6+9 1002 1 8b3b+5 bb 6a8e+9 1 2 1+25 1+9 1 2 1+3 1+9 1+1 8+1")]

end ImportAtlas.Unicode
