import FeatureFlags.Unicode.Table

namespace FeatureFlags.Unicode

def binaryProperties : Table := [
  ⟨["ahex", "asciihexdigit"],
    ["30+9 7+5 1A+5"]⟩,
  ⟨["bidic", "bidicontrol"],
    ["61C 19F1+1 1A+4 37+3"]⟩,
  ⟨["bidim", "bidimirrored"],
    ["28+1 12 1 1C 1 1D 1 2D F E7E+3 75D+1 99C+1 A+1 36+1 E+1 B1 C0+3 3+5 3 3+1 3+3 1+3 1 1",
     "4+8 5 1+11 5+3 9+1 1 1+7 2+1E 2+3 5 9+1 2+12 5+1 9+4 2+1 4+17 2+F 8+3 14+1 7+1 43D+D",
     "4A 2+3 1+1 1+2 5+3 5+2 3+D 193+15 2+5 1+D 8 7+5 3 4+4 1+1 2+4 4 1+2 2+1 A+5 2+1 C+12",
     "1+3 2 1 2 1+3 5+1 6+2 18+1 B+1 4+3 1+1 2+1 4+2A 2+7 1+27 5 1 3+4 5+2 4 3+4 1 100 203+3",
     "3+1 1+1 E+1 2+9 2B+7 1AB+9 2+7 CE3D+5 5+1 A2+1 12 1 1C 1 1D 1 1+1 1+1 D777 39 39 39 39"]⟩,
  ⟨["cwcf", "changeswhencasefolded"],
    ["41+19 5A A+16 1+7 20 1 1 1 1 1 1 1 1 1 1 1 1 1 1 1 1 1 1 1 1 1 1 1 1 1 1 1 2 1 1 1 1 1",
     "1 1 1+1 1 1 1 1 1 1 1 1 1 1 1 1 1 1 1 1 1 1 1 1 1 1 1+1 1 1 1 1+1 1 1+1 1+2 2+3 1+1",
     "1+2 3+1 1+1 1 1 1+1 1 2 1+1 1+2 1 1+1 3 7+1 1+1 1+1 1 1 1 1 1 1 1 1 2 1 1 1 1 1 1 1 1",
     "2+1 1 1+2 1 1 1 1 1 1 1 1 1 1 1 1 1 1 1 1 1 1 1 1 1 1 1 1 1 1 1 1 1 7+1 1+1 2 1+3 1 1",
     "1 1 F6 2A 1 3 8 6 1+2 1 1+1 1+10 1+8 16 C+2 3+1 1 1 1 1 1 1 1 1 1 1 1 1 1+1 2+1 1 1+1",
     "2+32 30 1 1 1 1 1 1 1 1 1 1 1 1 1 1 1 1 9 1 1 1 1 1 1 1 1 1 1 1 1 1 1 1 1 1 1 1 1 1 1",
     "1 1 1 1 1+1 1 1 1 1 1 1 2 1 1 1 1 1 1 1 1 1 1 1 1 1 1 1 1 1 1 1 1 1 1 1 1 1 1 1 1 1 1",
     "1 1 1 1 1 1 1 1 1 1 1 1 1 1 1 1 1 2+25 30 B18+25 1 5 32A+5 882+9 6+2A 2+2 140 1 1 1 1",
     "1 1 1 1 1 1 1 1 1 1 1 1 1 1 1 1 1 1 1 1 1 1 1 1 1 1 1 1 1 1 1 1 1 1 1 1 1 1 1 1 1 1 1",
     "1 1 1 1 1 1 1 1 1 1 1 1 1 1 1 1 1 1 1 1 1 1 1 1 1 1 1 5+1 2 1 1 1 1 1 1 1 1 1 1 1 1 1",
     "1 1 1 1 1 1 1 1 1 1 1 1 1 1 1 1 1 1 1 1 1 1 1 1 1 1 1 1 1 1 1 1 1 1 1 9+7 8+5 A+7 8+7",
     "8+5 B 1 1 1 8+7 10+2F 2+2 2+5 5+2 2+5 B+3 C+4 5+2 2+5 129 3+1 6 2D+F 13 332+19 730+2F",
     "30 1+2 2 1 1 1+3 1 2 8+2 1 1 1 1 1 1 1 1 1 1 1 1 1 1 1 1 1 1 1 1 1 1 1 1 1 1 1 1 1 1 1",
     "1 1 1 1 1 1 1 1 1 1 1 1 1 1 1 1 1 1 8 1 4 794D 1 1 1 1 1 1 1 1 1 1 1 1 1 1 1 1 1 1 1 1",
     "1 1 13 1 1 1 1 1 1 1 1 1 1 1 1 1 87 1 1 1 1 1 1 3 1 1 1 1 1 1 1 1 1 1 1 1 1 1 1 1 1 1",
     "1 1 1 1 1 1 1 1 1 1 1 1 A 1 1+1 1 1 1 1 4 1 2 1 3 1 1 1 1 1 1 1 1 1 1+4 1+4 1 1 1 1 1",
     "1 1 1+3 1 1+1 3 5 1 1 1 18 37A+4F 4F40+6 C+4 409+19 4C5+27 88+23 9C+A 1+E 1+6 1+1",
     "6EA+32 9D+15 B3A+1F 5580+1F 7AA0+21"]⟩,
  ⟨["cwl", "changeswhenlowercased"],
    ["41+19 65+16 1+6 21 1 1 1 1 1 1 1 1 1 1 1 1 1 1 1 1 1 1 1 1 1 1 1 1 1 1 1 2 1 1 1 1 1 1",
     "1 2 1 1 1 1 1 1 1 1 1 1 1 1 1 1 1 1 1 1 1 1 1 1 1+1 1 1 3+1 1 1+1 1+2 2+3 1+1 1+2 3+1",
     "1+1 1 1 1+1 1 2 1+1 1+2 1 1+1 3 7+1 1+1 1+1 1 1 1 1 1 1 1 1 2 1 1 1 1 1 1 1 1 2+1 1",
     "1+2 1 1 1 1 1 1 1 1 1 1 1 1 1 1 1 1 1 1 1 1 1 1 1 1 1 1 1 1 1 7+1 1+1 2 1+3 1 1 1 1",
     "121 1 3 8 6 1+2 1 1+1 1+10 1+8 23 8 1 1 1 1 1 1 1 1 1 1 1 5 2 1+1 2+32 30 1 1 1 1 1 1",
     "1 1 1 1 1 1 1 1 1 1 9 1 1 1 1 1 1 1 1 1 1 1 1 1 1 1 1 1 1 1 1 1 1 1 1 1 1 1+1 1 1 1 1",
     "1 1 2 1 1 1 1 1 1 1 1 1 1 1 1 1 1 1 1 1 1 1 1 1 1 1 1 1 1 1 1 1 1 1 1 1 1 1 1 1 1 1 1",
     "1 1 1 1 1 1 1 2+25 B49+25 1 5 2D2+55 893 6+2A 2+2 140 1 1 1 1 1 1 1 1 1 1 1 1 1 1 1 1",
     "1 1 1 1 1 1 1 1 1 1 1 1 1 1 1 1 1 1 1 1 1 1 1 1 1 1 1 1 1 1 1 1 1 1 1 1 1 1 1 1 1 1 1",
     "1 1 1 1 1 1 1 1 1 1 1 1 1 1 1 9 1 1 1 1 1 1 1 1 1 1 1 1 1 1 1 1 1 1 1 1 1 1 1 1 1 1 1",
     "1 1 1 1 1 1 1 1 1 1 1 1 1 1 1 1 1 1 1 1 1 9+7 8+5 A+7 8+7 8+5 B 1 1 1 8+7 18+7 8+7 8+7",
     "8+4 B+4 B+3 C+4 B+4 129 3+1 6 2D+F 13 332+19 730+2F 30 1+2 2 1 1 1+3 1 2 8+2 1 1 1 1 1",
     "1 1 1 1 1 1 1 1 1 1 1 1 1 1 1 1 1 1 1 1 1 1 1 1 1 1 1 1 1 1 1 1 1 1 1 1 1 1 1 1 1 1 1",
     "1 8 1 4 794D 1 1 1 1 1 1 1 1 1 1 1 1 1 1 1 1 1 1 1 1 1 1 13 1 1 1 1 1 1 1 1 1 1 1 1 1",
     "87 1 1 1 1 1 1 3 1 1 1 1 1 1 1 1 1 1 1 1 1 1 1 1 1 1 1 1 1 1 1 1 1 1 1 1 1 1 A 1 1+1 1",
     "1 1 1 4 1 2 1 3 1 1 1 1 1 1 1 1 1 1+4 1+4 1 1 1 1 1 1 1 1+3 1 1+1 3 5 1 1 1 18 572B+19",
     "4C5+27 88+23 9C+A 1+E 1+6 1+1 6EA+32 9D+15 B3A+1F 5580+1F 7AA0+21"]⟩,
  ⟨["cwt", "changeswhentitlecased"],
    ["61+19 3A 29+17 1+7 1 1 1 1 1 1 1 1 1 1 1 1 1 1 1 1 1 1 1 1 1 1 1 1 1 1 1 1 2 1 1 1 1 1",
     "1 1+1 1 1 1 1 1 1 1 1 1 1 1 1 1 1 1 1 1 1 1 1 1 1 1 2 1 1+2 2 1 2 3 5 2 3+2 2 2 1 1 2",
     "4 2 3 1 2 3 1 4 1+1 1+1 1 1 1 1 1 1 1 1 1+1 1 1 1 1 1 1 1 1 1+2 1 1 3 1 1 1 1 1 1 1 1",
     "1 1 1 1 1 1 1 1 1 1 1 3 1 1 1 1 1 1 1 1 8 2+1 1 4 1 1 1 1+5 1+1 1 1+1 3+1 1+3 1+4 2",
     "1+1 2 7 2 1+1 3+5 5 A+1 A6 2B 1 3 3+2 12 1B+22 1+1 3+2 1 1 1 1 1 1 1 1 1 1 1 1+4 1 2 2",
     "34+2F 1 1 1 1 1 1 1 1 1 1 1 1 1 1 1 1 1 9 1 1 1 1 1 1 1 1 1 1 1 1 1 1 1 1 1 1 1 1 1 1",
     "1 1 1 1 2 1 1 1 1 1 1+1 1 1 1 1 1 1 1 1 1 1 1 1 1 1 1 1 1 1 1 1 1 1 1 1 1 1 1 1 1 1 1",
     "1 1 1 1 1 1 1 1 1 1 1 1 1 1 1 1 1 31+26 E70+5 882+8 1 EE 3 10 72 1 1 1 1 1 1 1 1 1 1 1",
     "1 1 1 1 1 1 1 1 1 1 1 1 1 1 1 1 1 1 1 1 1 1 1 1 1 1 1 1 1 1 1 1 1 1 1 1 1 1 1 1 1 1 1",
     "1 1 1 1 1 1 1 1 1 1 1 1 1 1 1 1 1 1 1 1+6 5 1 1 1 1 1 1 1 1 1 1 1 1 1 1 1 1 1 1 1 1 1",
     "1 1 1 1 1 1 1 1 1 1 1 1 1 1 1 1 1 1 1 1 1 1 1 1 1 1+8 8+5 A+7 8+7 8+5 A+7 8+7 8+D 2+7",
     "8+7 8+7 8+4 1+1 6 3+2 1+1 8+3 2+1 8+7 A+2 1+1 156 21+F 4 34B+19 746+2F 1 3+1 1 1 1 6 2",
     "A 1 1 1 1 1 1 1 1 1 1 1 1 1 1 1 1 1 1 1 1 1 1 1 1 1 1 1 1 1 1 1 1 1 1 1 1 1 1 1 1 1 1",
     "1 1 1 1 1 1 1 8 1 4 C+25 1 5 7913 1 1 1 1 1 1 1 1 1 1 1 1 1 1 1 1 1 1 1 1 1 1 13 1 1 1",
     "1 1 1 1 1 1 1 1 1 1 87 1 1 1 1 1 1 3 1 1 1 1 1 1 1 1 1 1 1 1 1 1 1 1 1 1 1 1 1 1 1 1 1",
     "1 1 1 1 1 A 1 2 1 1 1 1 4 4 1+1 2 1 1 1 1 1 1 1 1 1 B 1 1 1 1 1 1 1 4 1 2 3 5 1 1 1A",
     "35C 1C+4F 4F40+6 C+4 429+19 4CD+27 88+23 9B+A 1+E 1+6 1+1 703+32 7D+15 B3A+1F 5580+1F",
     "7AA2+21"]⟩,
  ⟨["cwu", "changeswhenuppercased"],
    ["61+19 3A 29+17 1+7 1 1 1 1 1 1 1 1 1 1 1 1 1 1 1 1 1 1 1 1 1 1 1 1 1 1 1 1 2 1 1 1 1 1",
     "1 1+1 1 1 1 1 1 1 1 1 1 1 1 1 1 1 1 1 1 1 1 1 1 1 1 2 1 1+2 2 1 2 3 5 2 3+2 2 2 1 1 2",
     "4 2 3 1 2 3 1 5+1 1+1 1+1 1 1 1 1 1 1 1 1+1 1 1 1 1 1 1 1 1 1+1 1+1 1 3 1 1 1 1 1 1 1",
     "1 1 1 1 1 1 1 1 1 1 1 1 3 1 1 1 1 1 1 1 1 8 2+1 1 4 1 1 1 1+5 1+1 1 1+1 3+1 1+3 1+4 2",
     "1+1 2 7 2 1+1 3+5 5 A+1 A6 2B 1 3 3+2 12 1B+22 1+1 3+2 1 1 1 1 1 1 1 1 1 1 1 1+4 1 2 2",
     "34+2F 1 1 1 1 1 1 1 1 1 1 1 1 1 1 1 1 1 9 1 1 1 1 1 1 1 1 1 1 1 1 1 1 1 1 1 1 1 1 1 1",
     "1 1 1 1 2 1 1 1 1 1 1+1 1 1 1 1 1 1 1 1 1 1 1 1 1 1 1 1 1 1 1 1 1 1 1 1 1 1 1 1 1 1 1",
     "1 1 1 1 1 1 1 1 1 1 1 1 1 1 1 1 1 31+26 B48+2A 2+2 2F8+5 882+8 1 EE 3 10 72 1 1 1 1 1",
     "1 1 1 1 1 1 1 1 1 1 1 1 1 1 1 1 1 1 1 1 1 1 1 1 1 1 1 1 1 1 1 1 1 1 1 1 1 1 1 1 1 1 1",
     "1 1 1 1 1 1 1 1 1 1 1 1 1 1 1 1 1 1 1 1 1 1 1 1 1 1+6 5 1 1 1 1 1 1 1 1 1 1 1 1 1 1 1",
     "1 1 1 1 1 1 1 1 1 1 1 1 1 1 1 1 1 1 1 1 1 1 1 1 1 1 1 1 1 1 1 1+8 8+5 A+7 8+7 8+5 A+7",
     "8+7 8+D 2+34 1+1 4 1 3+2 1+1 4 3+3 2+1 8+7 A+2 1+1 4 151 21+F 4 34B+19 746+2F 1 3+1 1",
     "1 1 6 2 A 1 1 1 1 1 1 1 1 1 1 1 1 1 1 1 1 1 1 1 1 1 1 1 1 1 1 1 1 1 1 1 1 1 1 1 1 1 1",
     "1 1 1 1 1 1 1 1 1 1 1 8 1 4 C+25 1 5 7913 1 1 1 1 1 1 1 1 1 1 1 1 1 1 1 1 1 1 1 1 1 1",
     "13 1 1 1 1 1 1 1 1 1 1 1 1 1 87 1 1 1 1 1 1 3 1 1 1 1 1 1 1 1 1 1 1 1 1 1 1 1 1 1 1 1",
     "1 1 1 1 1 1 1 1 1 1 A 1 2 1 1 1 1 4 4 1+1 2 1 1 1 1 1 1 1 1 1 B 1 1 1 1 1 1 1 4 1 2 3",
     "5 1 1 1A 35C 1C+4F 4F40+6 C+4 429+19 4CD+27 88+23 9B+A 1+E 1+6 1+1 703+32 7D+15 B3A+1F",
     "5580+1F 7AA2+21"]⟩,
  ⟨["dash"],
    ["2D 55C 33 E41 405 809+5 3D 27 F 186 C04 2 1F+1 4 1C 1BE 13 6F CD90+1 25 A A9 F9F"]⟩,
  ⟨["dep", "deprecated"],
    ["149 529 903 1 829+1 8C5+5 2B9+1 DDCD6"]⟩,
  ⟨["dia", "diacritic"],
    ["5E 1 47 6 4 2+1 1F7+9E 1+7 5+5 11+1 4 9+1 FD+4 D1 37+10 1+1A 1 1+1 1 86+7 4+1 86+1 4+1",
     "3+2 43+1A 5B+A 3A+A 22+1 7E+7 29+9 10+1B 3D 10 3+3 1C 4A 10 6E 10 6E 10 2F+2 3C 10 7",
     "77 6E 10 6E 10 6D+1 10 7C 7C+5 1 6B D+4 4B+1 1B 1 1 4+1 42+2 1+1 3E 70 1+1 28+1 4+4",
     "19+6 1 A+1 2C1+2 3B4+1 B3+A 9 15B+2 139+7 2 30+E 2+A 68 F 26+8 36+1 8A+1 40+5 52+18 4",
     "6 2+2 32+3E 59+B 25+A 1BD 1+2 B+2 D+2 D+2 D+1 CF0+2 13D 1FA+5 69+3 5F 7572 C+1 1 1C+1",
     "52+1 E+21 66+2 6D+1 CA 1B+11 39+3 24 5F C 24 95+2 41+3 33 64+4 9+2 80+1 4F30 301+F 10E",
     "1 2F 2D+1 43 2FC 49F+5 1+29 1+8 32A+1 23B+5 1D5+2 46+A 31+3 C0 29 48+1 78+1 3E 4C 9+2",
     "68+1 B2+1 51 10 18+6 3+4 CD 3 7B+1 FB+1 7E 76+1 73 10D+1 102+1 4 9C 53 12 51 1A5 102",
     "1+1 51 16AF+E 369A+4 3B+6 458+10 50+1 3FFE+3 1+6 1+1 1F01+2D 2+16 220+2 3+5 8+7 2+6",
     "1E+3 E82+3D C2+6 177 3D+3 5E0+6 6D+2 1+2"]⟩,
  ⟨["emoji"],
    ["23 6 5+9 6F 4 1F8D C D8 16 5A+5 F+1 16F+1 C A6 19+A 4+2 C7 E7+1 A 9 3A+3 1+4 9 2 2+1 2",
     "4 2 1+1 2 3 3+1 8+2 5 1 5+B B+1 2 1+1 1 12 2+1 12+5 1 1+1 3+1 5 2+1 4+1 B+1 5+1 2 5+1",
     "1 1+1 14+1 5+5 1+3 2 4 2 2+5 1 2 1 1 6 3 6 A+1 F 2 4 1 4+2 1 B+1 30+2 9 E E 174+1",
     "1CF+2 13+1 33 4 4DA C 259 1 1BD6A CA A0+1 C+1 E 2+9 4B+19 1+1 17 14 2+8 15+1 AE+21",
     "2+6F 2+1 1+2 2+52 2+2 1+106 1+3E B+5 1+17 7+1 2+7 C 2+3 2 4+1 D+1 2 8+1 9 5+2 C+2 8+2",
     "2 1 4 6 3 6+55 30+45 5+7 2+2 4+9 3 1+1 3 2+9 E3+B 4 11B+2E 1+9 1+B8 70+C 3+9 5+37 7+E",
     "2+A 6+8"]⟩,
  ⟨["ecomp", "emojicomponent"],
    ["23 6 5+9 1FD3 D5 DD2B F3D6+19 1FB+4 5B0+3 C066C+5F"]⟩,
  ⟨["emod", "emojimodifier"],
    ["1F3FB+4"]⟩,
  ⟨["ebase", "emojimodifierbase"],
    ["261D DB 10+3 1CC77 3C+2 2 2+2 75+1 2+A 15+12 3 4+2 1+2 7 1 18 C9+1 4 15 4+1 AE+2 3+4",
     "53 10+2 9 B 23F 2 8+7 6 9+9 2+2 38 3D+1 1+1 1 11+2 1+C E5+2 2A+8"]⟩,
  ⟨["epres", "emojipresentation"],
    ["231A+1 CD+3 3 2 209+1 15+1 32+B 2B 13 D 8+1 11+1 5+1 8 5 15 7+1 1 4 2 7 4+1 1C 23 1",
     "4+2 1 3D+2 18 E 35B+1 33 4 1C4AE CA BE 2+9 4B+19 1 18 14 2+4 1+2 15+1 AE+20 C+8 1+45",
     "1+15 C+2A 4+4 C+10 3 3+46 1 1+BA 2+3E D+3 1+17 12 1A+1 D 56+54 30+45 6 3+2 2+2 4+3 B+1",
     "7+8 E3+B 4 11B+2E 1+9 1+B8 70+C 3+9 5+37 7+E 2+A 6+8"]⟩,
  ⟨["extpict", "extendedpictographic"],
    ["A9 4 1F8D C D8 16 5A+5 F+1 16F+1 C 5F 46 19+A 4+2 C7 E7+1 A 9 3A+3 1+5 1+B 1+71 A+75",
     "2+A 1 1 6 3 6 A+1 F 2 4 1 4+2 1 B+4 2D+2 9 E E 174+1 1CF+2 13+1 33 4 4DA C 259 1",
     "1BD66+FF D+2 1F 3C+5 C+1 E 2+9 12+38 1B+E A 14 2+8 1+3 9+1B1 5+13D 8+109 30+7F 74+B",
     "55+2A C+3 38+7 A+5 28+7 1E+51 C+2E 1+9 1+1B8 100+3FD"]⟩,
  ⟨["ext", "extender"],
    ["B7 218+1 36E 1B9 35A 2F0 7F 943 38 263 18E 44 1389 2B+4 67+1 5D+2 6F16 5F6 3C2 16 89",
     "6C 15+1 547B 810+1 BDA 268+2 4CF 50A9+1 49C+1 1 7158+1 806+2"]⟩,
  ⟨["hex", "hexdigit"],
    ["30+9 7+5 1A+5 FEA9+9 7+5 1A+5"]⟩,
  ⟨["hyphen"],
    ["2D 7F 4DC 127B 809+1 E05 2E3 CD67 A9 57"]⟩,
  ⟨["idsb", "idsbinaryoperator"],
    ["2FF0+1 2+7"]⟩,
  ⟨["idst", "idstrinaryoperator"],
    ["2FF2+1"]⟩,
  ⟨["ideo", "ideographic"],
    ["3006+1 19+8 E+2 3C5+19BF 40+51FF 5900+16D 2+69 750A 1B+17F7 8+4D5 2A+8 2467+18B",
     "4D04+A6DF 20+1039 6+DD 2+1681 E+1D30 F+26D 9A2+21D 5E2+134A 5+105F"]⟩,
  ⟨["joinc", "joincontrol"],
    ["200C+1"]⟩,
  ⟨["loe", "logicalorderexception"],
    ["E40+4 7B+4 AF0+2 2 90FA+1 2 1+1"]⟩,
  ⟨["nchar", "noncharactercodepoint"],
    ["FDD0+1F 20E+1 FFFE+1 FFFE+1 FFFE+1 FFFE+1 FFFE+1 FFFE+1 FFFE+1 FFFE+1 FFFE+1 FFFE+1",
     "FFFE+1 FFFE+1 FFFE+1 FFFE+1 FFFE+1 FFFE+1"]⟩,
  ⟨["patsyn", "patternsyntax"],
    ["21+E A+6 1A+3 1 1A+3 22+6 1 1+1 1 1+1 4 4 3 17 1F 1F18+17 8+E 2+12 1+9 131+2CF A0+275",
     "1E+46B 200+7F 181+2 4+18 F CD0D+1 105+1"]⟩,
  ⟨["patws", "patternwhitespace"],
    ["9+4 12 64 1F88+1 18+1"]⟩,
  ⟨["pcm", "prependedconcatenationmark"],
    ["600+5 D7 31 180+1 50 107DA F"]⟩,
  ⟨["qmark", "quotationmark"],
    ["22 4 83 F 1F5C+7 19+1 E07 1C9+3 D+2 CE21+3 BD 4 5A+1"]⟩,
  ⟨["radical"],
    ["2E80+19 1+58 C+D5"]⟩,
  ⟨["ri", "regionalindicator"],
    ["1F1E6+19"]⟩,
  ⟨["sterm", "sentenceterminal"],
    ["21 C 10 549 93+2 B4 2B+2 F6 3D 1 3+1 125+1 6E4+1 316 4+1 305 C6+1 CC 5 13A+1 162+3",
     "AE+1 2+1 1D+1 BC+1 41+1 3BC+1 9+2 DE4 D 16+1 1AD 74FC 10E+1 E3 3 17E+1 56+1 5F 98+1",
     "93+2 90+1 F9 5266 3+1 A9 C 10 41 AF4+1 4FD+4 2C+3 BD+1 75+3 7F+2 81+1 6 10+1 58+1 1+1",
     "6C 1A1+1 175+1 5+E 69+1 F9+2 205 1 FB+1 57+1 1A4+1 2B4+1 4A+1 4B29+1 85 41+1 B 353",
     "4E06 1DE8"]⟩,
  ⟨["sd", "softdotted"],
    ["69+1 C4 119 1E 34 14 140 62 1 1909 33 D 3 84 9D 1A5 D6+1 B32 1A7A5+1 32+1 32+1 32+1",
     "32+1 32+1 32+1 32+1 32+1 32+1 32+1 32+1 32+1 886 131+1 1A"]⟩,
  ⟨["term", "terminalpunctuation"],
    ["21 A 1 B+1 3 33E 8 201 39 48 E 1+2 B4 2B+A 1 EB+1 36+E 1F 105+1 4F4+1 AC 4+5 137+1",
     "315+7 305 7C+2 47+1 9D+2 3 27+3 2+1 13A+1 162+3 AE+1 1+2 1D+1 BC+4 3E+1 3BC+1 9+2 DE4",
     "D 4 A 1+1 3+1 1AC+1 74FB+1 10D+2 E3+4 17E+1 56+1 5F 97+2 93+2 7F 10+1 F9 5264+2 1+3 A9",
     "A 1 B+1 3 41 2 43A 30 486 C7 136+1 98+5 44+5 59+3 3B8+4 2C+3 BD+6 70+3 7F+2 81+1 6",
     "10+1 58+4 6C 1A1+2 C+1 166+3 3+E 69+1 F9+2 205 1 FB+1 57+1 4+1 19E+2 2D 285+1 4A+1",
     "52B+4 45F9+1 85 41+2 A 352+1 4E06 1DE7+3"]⟩,
  ⟨["uideo", "unifiedideograph"],
    ["3400+19BF 40+51FF 5A0E+1 1 1+1 A 1 1+1 2+2 105D6+A6DF 20+1039 6+DD 2+1681 E+1D30 F+26D",
     "11A2+134A 5+105F"]⟩,
  ⟨["vs", "variationselector"],
    ["180B+2 1 E5F0+F D02F0+EF"]⟩,
  ⟨["wspace", "whitespace", "space"],
    ["9+4 12 64 1A 15DF 97F+A 1D+1 5 2F FA0"]⟩,
  ⟨["grlink", "graphemelink"],
    ["94D 7F 7F 7F 7F 7F 7F 7F 6D+1 10 7C 6F 7F C9 B4+1 6D9+1 1E 9D 28D E3 65+1 46+1 118B",
     "7A86 25 97 8E 6C 135 F6 5E51 606 29 E 39 79+1 8B 74 B4 62 F4 7F FC 7F 76 74 10D 103+1",
     "A1 53 12 51 1A5 104+1 51 1A9+1"]⟩,
  ⟨["olower", "otherlowercase"],
    ["AA F 1F5+8 7+1 1E+4 60 34 D81 C2F+3E D 22+24 2B1 D 10+C D3+F 350+19 792+1 7A1E+1 D2",
     "81+2 3+1 362+3 9 5C16 2+2 1+29 1+8 D875+3D"]⟩,
  ⟨["oupper", "otheruppercase"],
    ["2160+F 346+19 1CC60+19 6+19 6+19"]⟩,
  ⟨["omath", "othermath"],
    ["5E 371+2 2 1A+1 2+1 1C20 1B+2 B 20+3 18+1 E+1 41+C 4 3+1 4+4 12 4 2+9 1 3+4 6 3+1 2+1",
     "1+2 1+5 3+3 5+4 4B+4 2+3 1+1 1+1 1 1+4 2+1 4+1 4+11 2+1 1 1+6 1 6+1 122+3 A8+1 1 18 11",
     "1BD+1 C+8 5+4 5+1 2+1 3+4 E 1 2+5 18+1 39 1 1D+3 9+1 156+1 1F+9 193+15 3F+3 20+1 D463",
     "1 4 D3 1 D4C1+54 1+46 1+1 2 2+1 2+3 1+B 1 1+6 1+40 1+3 2+7 1+6 1+1B 1+3 1+4 1 3+6",
     "1+153 2+18 1+18 1+1E 1+18 1+1E 1+18 1+1E 1+18 1+1E 1+18 1+7 2+31 1600+3 1+1A 1+1 1 2",
     "1+9 1+3 1 1 6 4 1 1 1+2 1+1 1 2 1 1 1 1 1+1 1 2+3 1+6 1+3 1+3 1 1+9 1+10 5+2 1+4 1+10"]⟩,
  ⟨["oalpha", "otheralphabetic"],
    ["5B0+D 1 1+1 1+1 1 48+A 30+C 1+6 10 65+6 4+3 2+1 4 23 1E+F 66+A 65+1 3+8 1+2 1+3 6A",
     "3C+B 3+6 6+13 36+1 2+E 1+1 5+2 A+1 1D+2 3A+6 2+1 2+1 A A+1 1D+2 3A+4 4+1 2+1 4 1E+1 3",
     "B+2 3A+7 1+2 1+1 15+1 16+2 4+2 3A+6 2+1 2+1 9+1 A+1 1E 3B+4 3+2 1+2 A 28+4 39+6 1+2",
     "1+2 8+1 B+1 1D+2 3A+6 1+2 1+2 8+1 B+1 F C+3 3A+6 1+2 1+2 A A+1 1D+2 4B+5 1 1+7 12+1 3D",
     "2+6 12 63 2+5 1+1 10 A3+12 9+A 1+23 6E+B 1 2+3 17+3 4+2 1+2 2+6 3+3 D+B 1 A+3 674+1",
     "1E+1 1E+1 1E+1 42+12 BC+1 22 76+B 4+8 DE+4 39+9 2+13 4A+1 B+2 31+4 30+E 3C+2 1E+8 2+1",
     "39+A 32+12 1B0+D FEB+1F 7874+7 22+1 162 8 17+4 58+1 32+F 1 39 26+4 1C+B 2D+3 30+B 25",
     "43+D C 8+1 2D+2 32 1+2 2+1 5 2C+4 5 ED+7 4F33 857+4 686+2 1+1 5+3 314+3 41 141+1 4F",
     "103+2 35+D 2D+1 B+2 2D+8 9 3D+2 24+B 12+1 39+2 30+C E+1 5C+8 2 6 2 9D+9 17+3 3A+6 2+1",
     "2+1 A A+1 54+8 1 2 1+3 1+1 67+C 1+2 6A+11 ED+6 2+6 1D+1 52+E 1 6A+A 67+D 101+C F7+5",
     "1+1 2+1 3 1 8E+6 2+5 4 1C+9 2A+4 1+3 12+A 2E+D 197+7 1+6 53+15 1+D 7A+5 3 1+1 1+2 1 3",
     "42+4 1+1 1+3 15C+3 9+1 1 30+6 3+2 41DD+10 E20 1+36 7+3 5D+1 4CAC 2361+6 1+10 2+6 1+1",
     "1+4 64 8B7"]⟩,
  ⟨["ogrext", "othergraphemeextend"],
    ["9BE 18 166 18 66 18 EA 12+1 67 18 77 F D55 4D6 1021+1 CF6E+1 139E 18 158 C F1 380 B834",
     "8+4 C2EAD+5F"]⟩,
  ⟨["oidc", "otheridcontinue"],
    ["B7 2CF FE1+8 668"]⟩,
  ⟨["oids", "otheridstart"],
    ["1885+1 891 15 F6C+1"]⟩,
  ⟨["odi", "otherdefaultignorablecodepoint"],
    ["34F E0F+1 653+1 8AF 10FE CE3B 4F+8 D0007 1+1D 60+7F F0+E0F"]⟩,
  ⟨["idsu", "idsunaryoperator"],
    ["2FFE+1"]⟩]

end FeatureFlags.Unicode
