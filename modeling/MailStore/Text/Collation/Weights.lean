/-!
# Weights of the root collation

The collation elements that the root collation of the Unicode Collation Algorithm gives the
characters assigned in Unicode 6.2, keeping the first two levels: the primary weight (the
base letter or symbol) and the secondary weight (accents). The third level (case and width)
is not kept, since texts are compared without it.

The weights are written as text, one entry for a character or a span of characters and
its elements, `key=elements`:

* the key is a code point in hexadecimal, or a span `first-last`, or a sequence of code
  points joined by `+` that collates as one (a contraction, such as `L` with a middle dot);
* the elements are `primary.secondary` pairs in hexadecimal, separated by commas; none for
  a character that is ignored altogether;
* a span with one element gives its first code point that element and each later one the
  primary weight one higher; a span with no elements is ignored altogether.

Ideographs that the table weights through another ideograph carry that ideograph's
implicit primary weight, its code point above a base (`0x10000` for the unified block,
`0x20000` for the other blocks), as the implicit weights of characters without an entry
are formed.
-/

namespace MailStore

namespace Collation

/-- The weights of single characters and spans of characters, sorted by code point. -/
def singleText : String :=
  " ".intercalate [
    "0-8= 9-D=201.20 E-1F= 20=209.20 21=267.20 22=31D.20 23=3AC.20 24=1F64.20 25=3AD.20",
    "26=3A9.20 27=316.20 28-29=328.20 2A=3A1.20 2B=666.20 2C=223.20 2D=20D.20 2E=27E.20",
    "2F=3A6.20 30-39=1F98.20 3A=240.20 3B=23A.20 3C-3E=66A.20 3F=26D.20 40=3A0.20 41=1FA2.20",
    "42=1FBC.20 43=1FD6.20 44=1FEB.20 45=2007.20 46=2042.20 47=2051.20 48=2075.20 49=2090.20",
    "4A=20AB.20 4B=20C4.20 4C=20D6.20 4D=2109.20 4E=2118.20 4F=213C.20 50=216B.20 51=2180.20",
    "52=2193.20 53=21D2.20 54=21F7.20 55=2217.20 56=2247.20 57=2259.20 58=2264.20 59=2270.20",
    "5A=2286.20 5B=32A.20 5C=3A7.20 5D=32B.20 5E=4B7.20 5F=20B.20 60=4B4.20 61=1FA2.20",
    "62=1FBC.20 63=1FD6.20 64=1FEB.20 65=2007.20 66=2042.20 67=2051.20 68=2075.20 69=2090.20",
    "6A=20AB.20 6B=20C4.20 6C=20D6.20 6D=2109.20 6E=2118.20 6F=213C.20 70=216B.20 71=2180.20",
    "72=2193.20 73=21D2.20 74=21F7.20 75=2217.20 76=2247.20 77=2259.20 78=2264.20 79=2270.20",
    "7A=2286.20 7B=32C.20 7C=66E.20 7D=32D.20 7E=670.20 7F-84= 85=206.20 86-9F= A0=209.20",
    "A1=268.20 A2=1F63.20 A3=1F65.20 A4=1F62.20 A5=1F66.20 A6=66F.20 A7=39A.20 A8=4BB.20",
    "A9=5D2.20 AA=1FA2.20 AB=326.20 AC=66D.20 AD= AE=5D4.20 AF=4B8.20 B0=52A.20 B1=667.20",
    "B2-B3=1F9A.20 B4=4B5.20 B5=2330.20 B6=39C.20 B7=293.20 B8=4BE.20 B9=1F99.20 BA=213C.20",
    "BB=327.20 BC=1F99.20,676.20,1F9C.20 BD=1F99.20,676.20,1F9A.20 BE=1F9B.20,676.20,1F9C.20",
    "BF=26E.20 C0=1FA2.20,0.25 C1=1FA2.20,0.24 C2=1FA2.20,0.27 C3=1FA2.20,0.2D",
    "C4=1FA2.20,0.2B C5=1FA2.20,0.29 C6=1FA2.20,0.118,2007.20 C7=1FD6.20,0.30",
    "C8=2007.20,0.25 C9=2007.20,0.24 CA=2007.20,0.27 CB=2007.20,0.2B CC=2090.20,0.25",
    "CD=2090.20,0.24 CE=2090.20,0.27 CF=2090.20,0.2B D0=1FEB.20,0.118 D1=2118.20,0.2D",
    "D2=213C.20,0.25 D3=213C.20,0.24 D4=213C.20,0.27 D5=213C.20,0.2D D6=213C.20,0.2B",
    "D7=669.20 D8=213C.20,0.2F D9=2217.20,0.25 DA=2217.20,0.24 DB=2217.20,0.27",
    "DC=2217.20,0.2B DD=2270.20,0.24 DE=22B5.20 DF=21D2.20,0.118,21D2.20 E0=1FA2.20,0.25",
    "E1=1FA2.20,0.24 E2=1FA2.20,0.27 E3=1FA2.20,0.2D E4=1FA2.20,0.2B E5=1FA2.20,0.29",
    "E6=1FA2.20,0.118,2007.20 E7=1FD6.20,0.30 E8=2007.20,0.25 E9=2007.20,0.24",
    "EA=2007.20,0.27 EB=2007.20,0.2B EC=2090.20,0.25 ED=2090.20,0.24 EE=2090.20,0.27",
    "EF=2090.20,0.2B F0=1FEB.20,0.118 F1=2118.20,0.2D F2=213C.20,0.25 F3=213C.20,0.24",
    "F4=213C.20,0.27 F5=213C.20,0.2D F6=213C.20,0.2B F7=668.20 F8=213C.20,0.2F",
    "F9=2217.20,0.25 FA=2217.20,0.24 FB=2217.20,0.27 FC=2217.20,0.2B FD=2270.20,0.24",
    "FE=22B5.20 FF=2270.20,0.2B 100=1FA2.20,0.32 101=1FA2.20,0.32 102=1FA2.20,0.26",
    "103=1FA2.20,0.26 104=1FA2.20,0.31 105=1FA2.20,0.31 106=1FD6.20,0.24 107=1FD6.20,0.24",
    "108=1FD6.20,0.27 109=1FD6.20,0.27 10A=1FD6.20,0.2E 10B=1FD6.20,0.2E 10C=1FD6.20,0.28",
    "10D=1FD6.20,0.28 10E=1FEB.20,0.28 10F=1FEB.20,0.28 110=1FEB.20,0.39 111=1FEB.20,0.39",
    "112=2007.20,0.32 113=2007.20,0.32 114=2007.20,0.26 115=2007.20,0.26 116=2007.20,0.2E",
    "117=2007.20,0.2E 118=2007.20,0.31 119=2007.20,0.31 11A=2007.20,0.28 11B=2007.20,0.28",
    "11C=2051.20,0.27 11D=2051.20,0.27 11E=2051.20,0.26 11F=2051.20,0.26 120=2051.20,0.2E",
    "121=2051.20,0.2E 122=2051.20,0.30 123=2051.20,0.30 124=2075.20,0.27 125=2075.20,0.27",
    "126=2075.20,0.39 127=2075.20,0.39 128=2090.20,0.2D 129=2090.20,0.2D 12A=2090.20,0.32",
    "12B=2090.20,0.32 12C=2090.20,0.26 12D=2090.20,0.26 12E=2090.20,0.31 12F=2090.20,0.31",
    "130=2090.20,0.2E 131=2094.20 132=2090.20,20AB.20 133=2090.20,20AB.20 134=20AB.20,0.27",
    "135=20AB.20,0.27 136=20C4.20,0.30 137=20C4.20,0.30 138=218F.20 139=20D6.20,0.24",
    "13A=20D6.20,0.24 13B=20D6.20,0.30 13C=20D6.20,0.30 13D=20D6.20,0.28 13E=20D6.20,0.28",
    "13F=20D6.20,0.118 140=20D6.20,0.118 141=20D6.20,0.39 142=20D6.20,0.39 143=2118.20,0.24",
    "144=2118.20,0.24 145=2118.20,0.30 146=2118.20,0.30 147=2118.20,0.28 148=2118.20,0.28",
    "149=22E3.20,2118.20 14A=2137.20 14B=2137.20 14C=213C.20,0.32 14D=213C.20,0.32",
    "14E=213C.20,0.26 14F=213C.20,0.26 150=213C.20,0.2C 151=213C.20,0.2C",
    "152=213C.20,0.118,2007.20 153=213C.20,0.118,2007.20 154=2193.20,0.24 155=2193.20,0.24",
    "156=2193.20,0.30 157=2193.20,0.30 158=2193.20,0.28 159=2193.20,0.28 15A=21D2.20,0.24",
    "15B=21D2.20,0.24 15C=21D2.20,0.27 15D=21D2.20,0.27 15E=21D2.20,0.30 15F=21D2.20,0.30",
    "160=21D2.20,0.28 161=21D2.20,0.28 162=21F7.20,0.30 163=21F7.20,0.30 164=21F7.20,0.28",
    "165=21F7.20,0.28 166=21FC.20 167=21FC.20 168=2217.20,0.2D 169=2217.20,0.2D",
    "16A=2217.20,0.32 16B=2217.20,0.32 16C=2217.20,0.26 16D=2217.20,0.26 16E=2217.20,0.29",
    "16F=2217.20,0.29 170=2217.20,0.2C 171=2217.20,0.2C 172=2217.20,0.31 173=2217.20,0.31",
    "174=2259.20,0.27 175=2259.20,0.27 176=2270.20,0.27 177=2270.20,0.27 178=2270.20,0.2B",
    "179=2286.20,0.24 17A=2286.20,0.24 17B=2286.20,0.2E 17C=2286.20,0.2E 17D=2286.20,0.28",
    "17E=2286.20,0.28 17F=21D2.20,0.119 180=1FC4.20 181=1FCD.20 182=1FD1.20 183=1FD1.20",
    "184=22D6.20 185=22D6.20 186=214F.20 187=1FE1.20 188=1FE1.20 189=1FF4.20 18A=1FF8.20",
    "18B=1FFD.20 18C=1FFD.20 18D=2286.20,2259.20 18E=2015.20 18F=201A.20 190=201F.20",
    "191=204B.20 192=204B.20 193=2063.20 194=206D.20 195=207D.20 196=20A6.20 197=209F.20",
    "198=20CA.20 199=20CA.20 19A=20E1.20 19B=2101.20 19C=2238.20 19D=2123.20 19E=2127.20",
    "19F=215C.20 1A0=213C.20,0.3F 1A1=213C.20,0.3F 1A2=2071.20 1A3=2071.20 1A4=2174.20",
    "1A5=2174.20 1A6=2198.20 1A7=22CE.20 1A8=22CE.20 1A9=21E4.20 1AA=21EA.20 1AB=2202.20",
    "1AC=2206.20 1AD=2206.20 1AE=220A.20 1AF=2217.20,0.3F 1B0=2217.20,0.3F 1B1=2242.20",
    "1B2=224E.20 1B3=227C.20 1B4=227C.20 1B5=228B.20 1B6=228B.20 1B7=22A3.20 1B8=22A8.20",
    "1B9=22A8.20 1BA=22AD.20 1BB=22C7.20 1BC=22D2.20 1BD=22D2.20 1BE=21F7.20,21D2.20",
    "1BF=22BB.20 1C0=22FE.20 1C1=2302.20 1C2=2306.20 1C3=230A.20 1C4=1FEB.20,2286.20,0.28",
    "1C5=1FEB.20,2286.20,0.28 1C6=1FEB.20,2286.20,0.28 1C7=20D6.20,20AB.20",
    "1C8=20D6.20,20AB.20 1C9=20D6.20,20AB.20 1CA=2118.20,20AB.20 1CB=2118.20,20AB.20",
    "1CC=2118.20,20AB.20 1CD=1FA2.20,0.28 1CE=1FA2.20,0.28 1CF=2090.20,0.28 1D0=2090.20,0.28",
    "1D1=213C.20,0.28 1D2=213C.20,0.28 1D3=2217.20,0.28 1D4=2217.20,0.28",
    "1D5=2217.20,0.2B,0.32 1D6=2217.20,0.2B,0.32 1D7=2217.20,0.2B,0.24 1D8=2217.20,0.2B,0.24",
    "1D9=2217.20,0.2B,0.28 1DA=2217.20,0.2B,0.28 1DB=2217.20,0.2B,0.25 1DC=2217.20,0.2B,0.25",
    "1DD=2015.20 1DE=1FA2.20,0.2B,0.32 1DF=1FA2.20,0.2B,0.32 1E0=1FA2.20,0.2E,0.32",
    "1E1=1FA2.20,0.2E,0.32 1E2=1FA2.20,0.118,2007.20,0.32 1E3=1FA2.20,0.118,2007.20,0.32",
    "1E4=205E.20 1E5=205E.20 1E6=2051.20,0.28 1E7=2051.20,0.28 1E8=20C4.20,0.28",
    "1E9=20C4.20,0.28 1EA=213C.20,0.31 1EB=213C.20,0.31 1EC=213C.20,0.31,0.32",
    "1ED=213C.20,0.31,0.32 1EE=22A3.20,0.28 1EF=22A3.20,0.28 1F0=20AB.20,0.28",
    "1F1=1FEB.20,2286.20 1F2=1FEB.20,2286.20 1F3=1FEB.20,2286.20 1F4=2051.20,0.24",
    "1F5=2051.20,0.24 1F6=207D.20 1F7=22BB.20 1F8=2118.20,0.25 1F9=2118.20,0.25",
    "1FA=1FA2.20,0.29,0.24 1FB=1FA2.20,0.29,0.24 1FC=1FA2.20,0.118,2007.20,0.24",
    "1FD=1FA2.20,0.118,2007.20,0.24 1FE=213C.20,0.2F,0.24 1FF=213C.20,0.2F,0.24",
    "200=1FA2.20,0.3C 201=1FA2.20,0.3C 202=1FA2.20,0.3E 203=1FA2.20,0.3E 204=2007.20,0.3C",
    "205=2007.20,0.3C 206=2007.20,0.3E 207=2007.20,0.3E 208=2090.20,0.3C 209=2090.20,0.3C",
    "20A=2090.20,0.3E 20B=2090.20,0.3E 20C=213C.20,0.3C 20D=213C.20,0.3C 20E=213C.20,0.3E",
    "20F=213C.20,0.3E 210=2193.20,0.3C 211=2193.20,0.3C 212=2193.20,0.3E 213=2193.20,0.3E",
    "214=2217.20,0.3C 215=2217.20,0.3C 216=2217.20,0.3E 217=2217.20,0.3E 218=21D2.20,0.45",
    "219=21D2.20,0.45 21A=21F7.20,0.45 21B=21F7.20,0.45 21C=2282.20 21D=2282.20",
    "21E=2075.20,0.28 21F=2075.20,0.28 220=2127.20 221=2001.20 222=2166.20 223=2166.20",
    "224=2291.20 225=2291.20 226=1FA2.20,0.2E 227=1FA2.20,0.2E 228=2007.20,0.30",
    "229=2007.20,0.30 22A=213C.20,0.2B,0.32 22B=213C.20,0.2B,0.32 22C=213C.20,0.2D,0.32",
    "22D=213C.20,0.2D,0.32 22E=213C.20,0.2E 22F=213C.20,0.2E 230=213C.20,0.2E,0.32",
    "231=213C.20,0.2E,0.32 232=2270.20,0.32 233=2270.20,0.32 234=20F7.20 235=2131.20",
    "236=220E.20 237=20AF.20 238=1FEB.20,1FBC.20 239=2180.20,216B.20 23A=1FA7.20 23B=1FDB.20",
    "23C=1FDB.20 23D=20E1.20 23E=2200.20 23F=21DE.20 240=229D.20 241=22DE.20 242=22DE.20",
    "243=1FC4.20 244=2222.20 245=2255.20 246=200E.20 247=200E.20 248=20B4.20 249=20B4.20",
    "24A=218B.20 24B=218B.20 24C=219F.20 24D=219F.20 24E=2278.20 24F=2278.20 250=1FAD.20",
    "251=1FB1.20 252=1FB7.20 253=1FCD.20 254=214F.20 255=1FE5.20 256=1FF4.20 257=1FF8.20",
    "258=2024.20 259=201A.20 25A=2028.20 25B=201F.20 25C=202C.20 25D=2032.20 25E=2036.20",
    "25F=20BC.20 260=2063.20 261=2055.20 262=205A.20 263=206D.20 264=203E.20 265=222C.20",
    "266=2082.20 267=208A.20 268=209F.20 269=20A6.20 26A=2098.20 26B=20E6.20 26C=20EC.20",
    "26D=20F2.20 26E=20FC.20 26F=2238.20 270=223E.20 271=2110.20 272=2123.20 273=212D.20",
    "274=211C.20 275=215C.20 276=2143.20 277=2161.20 278=217B.20 279=21A4.20 27A=21A9.20",
    "27B=21AE.20 27C=21B3.20 27D=21B7.20 27E=21BC.20 27F=21C1.20 280=2198.20 281=21CA.20",
    "282=21DA.20 283=21E4.20 284=20C0.20 285=21EE.20 286=21F3.20 287=2213.20 288=220A.20",
    "289=2222.20 28A=2242.20 28B=224E.20 28C=2255.20 28D=2260.20 28E=2105.20 28F=2274.20",
    "290=2295.20 291=2299.20 292=22A3.20 293=22B1.20 294=22DA.20 295=22E9.20 296=22FA.20",
    "297=230E.20 298=2312.20 299=1FC0.20 29A=203A.20 29B=2067.20 29C=2079.20 29D=20B8.20",
    "29E=20D2.20 29F=20DA.20 2A0=2187.20 2A1=22F2.20 2A2=22F6.20 2A3=1FEB.20,2286.20",
    "2A4=1FEB.20,22A3.20 2A5=1FEB.20,2299.20 2A6=21F7.20,21D2.20 2A7=21F7.20,21E4.20",
    "2A8=21F7.20,1FE5.20 2A9=2042.20,2137.20 2AA=20D6.20,21D2.20 2AB=20D6.20,2286.20",
    "2AC=2316.20 2AD=231A.20 2AE=2230.20 2AF=2234.20 2B0=2075.20 2B1=2082.20 2B2=20AB.20",
    "2B3=2193.20 2B4=21A4.20 2B5=21AE.20 2B6=21CA.20 2B7=2259.20 2B8=2270.20 2B9=4C5.20",
    "2BA=4C7.20 2BB=208E.20 2BC=22E3.20 2BD=208F.20 2BE=22E5.20 2BF=22ED.20 2C0=22E2.20",
    "2C1=22EE.20 2C2-2CF=4C8.20 2D0-2D1=1F46.20 2D2-2D5=4D6.20 2D6-2D7=4DC.20 2D8-2D9=4B9.20",
    "2DA=4BC.20 2DB=4BF.20 2DC=4B6.20 2DD=4BD.20 2DE-2DF=4DE.20 2E0=206D.20 2E1=20D6.20",
    "2E2=21D2.20 2E3=2264.20 2E4=22E9.20 2E5-2ED=4E0.20 2EE=22E4.20 2EF-2FF=4E9.20 300=0.25",
    "301=0.24 302=0.27 303=0.2D 304=0.32 305=0.3A 306=0.26 307=0.2E 308=0.2B 309=0.3B",
    "30A=0.29 30B=0.2C 30C=0.28 30D=0.33 30E=0.33 30F=0.3C 310=0.3D 311=0.3E 312=0.33",
    "313=0.22 314=0.23 315=0.33 316=0.34 317=0.34 318=0.34 319=0.34 31A=0.33 31B=0.3F",
    "31C=0.34 31D=0.34 31E=0.34 31F=0.34 320=0.34 321=0.40 322=0.41 323=0.42 324=0.43",
    "325=0.44 326=0.45 327=0.30 328=0.31 329=0.34 32A=0.34 32B=0.34 32C=0.34 32D=0.46",
    "32E=0.47 32F=0.34 330=0.48 331=0.49 332=0.21 333=0.34 334=0.4A 335=0.39 336=0.35",
    "337=0.35 338=0.2F 339=0.4B 33A=0.34 33B=0.34 33C=0.34 33D=0.33 33E=0.33 33F=0.33",
    "340=0.25 341=0.24 342=0.2A 343=0.22 344=0.2B,0.24 345=0.4C 346=0.33 347=0.34 348=0.34",
    "349=0.34 34A=0.33 34B=0.33 34C=0.33 34D=0.34 34E=0.34 34F= 350=0.33 351=0.33 352=0.33",
    "353=0.34 354=0.34 355=0.34 356=0.34 357=0.33 358=0.4D 359=0.34 35A=0.34 35B=0.33",
    "35C=0.34 35D=0.33 35E=0.33 35F=0.34 360=0.4E 361=0.4F 362=0.34 363=1FA2.20 364=2007.20",
    "365=2090.20 366=213C.20 367=2217.20 368=1FD6.20 369=1FEB.20 36A=2075.20 36B=2109.20",
    "36C=2193.20 36D=21F7.20 36E=2247.20 36F=2264.20 370=2328.20 371=2328.20 372=2349.20",
    "373=2349.20 374-375=4C5.20 376=2325.20 377=2325.20 37A=232B.20 37B=233E.20 37C=233D.20",
    "37D=233F.20 37E=23A.20 384=4B5.20 385=4BB.20,0.24 386=231E.20,0.24 387=293.20",
    "388=2323.20,0.24 389=2329.20,0.24 38A=232B.20,0.24 38C=2333.20,0.24 38E=2341.20,0.24",
    "38F=2346.20,0.24 390=232B.20,0.2B,0.24 391-393=231E.20 394-395=2322.20 396=2327.20",
    "397-399=2329.20 39A-39B=232D.20 39C-3A0=2330.20 3A1=2339.20 3A3=233C.20 3A4-3A8=2340.20",
    "3A9=2346.20 3AA=232B.20,0.2B 3AB=2341.20,0.2B 3AC=231E.20,0.24 3AD=2323.20,0.24",
    "3AE=2329.20,0.24 3AF=232B.20,0.24 3B0=2341.20,0.2B,0.24 3B1-3B3=231E.20 3B4-3B5=2322.20",
    "3B6=2327.20 3B7-3B9=2329.20 3BA-3BB=232D.20 3BC-3C0=2330.20 3C1=2339.20 3C2=233C.20",
    "3C3=233C.20 3C4-3C8=2340.20 3C9=2346.20 3CA=232B.20,0.2B 3CB=2341.20,0.2B",
    "3CC=2333.20,0.24 3CD=2341.20,0.24 3CE=2346.20,0.24 3CF=232D.20,231E.20,232B.20",
    "3D0=231F.20 3D1=232A.20 3D2=2341.20 3D3=2341.20,0.24 3D4=2341.20,0.2B 3D5=2342.20",
    "3D6=2334.20 3D7=232D.20,231E.20,232B.20 3D8=2338.20 3D9=2338.20 3DA=2326.20 3DB=2326.20",
    "3DC=2324.20 3DD=2324.20 3DE=2337.20 3DF=2337.20 3E0=2348.20 3E1=2348.20 3E2=236A.20",
    "3E3=236A.20 3E4=236F.20 3E5-3E6=236F.20 3E7=2370.20 3E8=2373.20 3E9=2373.20 3EA=237A.20",
    "3EB=237A.20 3EC=237D.20 3ED=237D.20 3EE=2381.20 3EF=2381.20 3F0=232D.20 3F1=2339.20",
    "3F2=233C.20 3F3=232C.20 3F4=232A.20 3F5=2323.20 3F6=661.20 3F7=234A.20 3F8=234A.20",
    "3F9=233C.20 3FA=2336.20 3FB=2336.20 3FC=233B.20 3FD=233E.20 3FE=233D.20 3FF=233F.20",
    "400=23BF.20,0.25 401=23BF.20,0.2B 402=23B5.20 403=239B.20,0.24 404=23C3.20 405=23D9.20",
    "406=23ED.20 407=23ED.20,0.2B 408=23F6.20 409=2421.20 40A=2447.20 40B=247E.20",
    "40C=23FB.20,0.24 40D=23E5.20,0.25 40E=2482.20,0.26 40F=24E4.20 410=2387.20 411=2393.20",
    "412=2397.20 413=239B.20 414=23AF.20 415=23BF.20 416=23C7.20 417=23D1.20 418=23E5.20",
    "419=23F2.20 41A=23FB.20 41B=2415.20 41C=2428.20 41D=2431.20 41E=244C.20 41F=2454.20",
    "420=2461.20 421=246A.20 422=2473.20 423=2482.20 424=2493.20 425=2497.20 426=24BE.20",
    "427=24C9.20 428=24E8.20 429=24ED.20 42A=24F4.20 42B=24F9.20 42C=24FD.20 42D=250A.20",
    "42E=250E.20 42F=2514.20 430=2387.20 431=2393.20 432=2397.20 433=239B.20 434=23AF.20",
    "435=23BF.20 436=23C7.20 437=23D1.20 438=23E5.20 439=23F2.20 43A=23FB.20 43B=2415.20",
    "43C=2428.20 43D=2431.20 43E=244C.20 43F=2454.20 440=2461.20 441=246A.20 442=2473.20",
    "443=2482.20 444=2493.20 445=2497.20 446=24BE.20 447=24C9.20 448=24E8.20 449=24ED.20",
    "44A=24F4.20 44B=24F9.20 44C=24FD.20 44D=250A.20 44E=250E.20 44F=2514.20",
    "450=23BF.20,0.25 451=23BF.20,0.2B 452=23B5.20 453=239B.20,0.24 454=23C3.20 455=23D9.20",
    "456=23ED.20 457=23ED.20,0.2B 458=23F6.20 459=2421.20 45A=2447.20 45B=247E.20",
    "45C=23FB.20,0.24 45D=23E5.20,0.25 45E=2482.20,0.26 45F=24E4.20 460=24AD.20 461=24AD.20",
    "462=2505.20 463=2505.20 464=2519.20 465=2519.20 466=251D.20 467=251D.20 468=2527.20",
    "469=2527.20 46A=2522.20 46B=2522.20 46C=252C.20 46D=252C.20 46E=2530.20 46F=2530.20",
    "470=2534.20 471=2534.20 472=2538.20 473=2538.20 474=253C.20 475=253C.20",
    "476=253C.20,0.3C 477=253C.20,0.3C 478=248F.20 479=248F.20 47A=24BA.20 47B=24BA.20",
    "47C=24B6.20 47D=24B6.20 47E=24B1.20 47F=24B1.20 480=245D.20 481=245D.20 482=52B.20",
    "483=0.50 484=0.33 485=0.23 486=0.22 487=0.33 488-489= 48A=23E9.20 48B=23E9.20",
    "48C=2501.20 48D=2501.20 48E=2465.20 48F=2465.20 490=239B.20,0.119 491=239B.20,0.119",
    "492=239F.20 493=239F.20 494=23A7.20 495=23A7.20 496=23CD.20 497=23CD.20 498=23BB.20",
    "499=23BB.20 49A=23FF.20 49B=23FF.20 49C=240F.20 49D=240F.20 49E=240B.20 49F=240B.20",
    "4A0=2407.20 4A1=2407.20 4A2=243A.20 4A3=243A.20 4A4=2443.20 4A5=2443.20 4A6=2459.20",
    "4A7=2459.20 4A8=2541.20 4A9=2541.20 4AA=246F.20 4AB=246F.20 4AC=2479.20 4AD=2479.20",
    "4AE=2486.20 4AF=2486.20 4B0=248A.20 4B1=248A.20 4B2=24A3.20 4B3=24A3.20 4B4=24C4.20",
    "4B5=24C4.20 4B6=24CF.20 4B7=24CF.20 4B8=24D7.20 4B9=24D7.20 4BA=24A7.20 4BB=24A7.20",
    "4BC=24DC.20 4BD=24DC.20 4BE=24E0.20 4BF=24E0.20 4C0=2546.20 4C1=23C7.20,0.26",
    "4C2=23C7.20,0.26 4C3=2403.20 4C4=2403.20 4C5=241A.20 4C6=241A.20 4C7=243E.20",
    "4C8=243E.20 4C9=2436.20 4CA=2436.20 4CB=24D3.20 4CC=24D3.20 4CD=242C.20 4CE=242C.20",
    "4CF=2546.20 4D0=2387.20,0.26 4D1=2387.20,0.26 4D2=2387.20,0.2B 4D3=2387.20,0.2B",
    "4D4=238F.20 4D5=238F.20 4D6=23BF.20,0.26 4D7=23BF.20,0.26 4D8=238B.20 4D9=238B.20",
    "4DA=238B.20,0.2B 4DB=238B.20,0.2B 4DC=23C7.20,0.2B 4DD=23C7.20,0.2B 4DE=23D1.20,0.2B",
    "4DF=23D1.20,0.2B 4E0=23DE.20 4E1=23DE.20 4E2=23E5.20,0.32 4E3=23E5.20,0.32",
    "4E4=23E5.20,0.2B 4E5=23E5.20,0.2B 4E6=244C.20,0.2B 4E7=244C.20,0.2B 4E8=2450.20",
    "4E9=2450.20 4EA=2450.20,0.2B 4EB=2450.20,0.2B 4EC=250A.20,0.2B 4ED=250A.20,0.2B",
    "4EE=2482.20,0.32 4EF=2482.20,0.32 4F0=2482.20,0.2B 4F1=2482.20,0.2B 4F2=2482.20,0.2C",
    "4F3=2482.20,0.2C 4F4=24C9.20,0.2B 4F5=24C9.20,0.2B 4F6=23AB.20 4F7=23AB.20",
    "4F8=24F9.20,0.2B 4F9=24F9.20,0.2B 4FA=23A3.20 4FB=23A3.20 4FC=249B.20 4FD=249B.20",
    "4FE=249F.20 4FF=249F.20 500=23B3.20 501=23B3.20 502=23BA.20 503=23BA.20 504=23D6.20",
    "505=23D6.20 506=23E3.20 507=23E3.20 508=2426.20 509=2426.20 50A=244B.20 50B=244B.20",
    "50C=246E.20 50D=246E.20 50E=2478.20 50F=2478.20 510=23D7.20 511=23D7.20 512=241F.20",
    "513=241F.20 514=2427.20 515=2427.20 516=2469.20 517=2469.20 518=2518.20 519=2518.20",
    "51A=2414.20 51B=2414.20 51C=2545.20 51D=2545.20 51E=2413.20 51F=2413.20 520=2420.20",
    "521=2420.20 522=2442.20 523=2442.20 524=2458.20 525=2458.20 526=24AB.20 527=24AB.20",
    "531=25F5.20 532-545=25F7.20 546-556=260C.20 559=261D.20 55A-55B=3E4.20 55C=269.20",
    "55D=22A.20 55E=270.20 55F=3E6.20 561=25F5.20 562-575=25F7.20 576-586=260C.20",
    "587=25FA.20,2618.20 589=241.20 58A=20E.20 58F=1F67.20 591-5AF= 5B0=0.52 5B1=0.53",
    "5B2=0.54 5B3=0.55 5B4=0.56 5B5=0.57 5B6=0.58 5B7=0.59 5B8=0.5A 5B9=0.5B 5BA=0.5B",
    "5BB=0.5C 5BC=0.5F 5BD= 5BE=3E7.20 5BF=0.60 5C0=3E8.20 5C1=0.5E 5C2=0.5D 5C3=3E9.20",
    "5C4-5C5= 5C6=3EA.20 5C7=0.5A 5D0-5DA=261E.20 5DB-5DD=2628.20 5DE-5DF=262A.20",
    "5E0-5E3=262B.20 5E4-5E5=262E.20 5E6-5EA=262F.20 5F0=2623.20,2623.20 5F1=2623.20,2627.20",
    "5F2=2627.20,2627.20 5F3-5F4=3EB.20 600-604= 606=67D.20 607=67F.20 608=52E.20 609=3B0.20",
    "60A=3B2.20 60B=1F68.20 60C-60D=22B.20 60E-60F=531.20 610-61A= 61B=23B.20 61E=242.20",
    "61F=271.20 620=2740.20 621-623=2664.20 624-625=2669.20 626=266E.20 627=2672.20",
    "628=2674.20 629-62B=2684.20 62C=268F.20 62D-62E=2699.20 62F-630=26A4.20 631-632=26B3.20",
    "633-634=26C6.20 635-636=26D1.20 637-638=26D7.20 639-63A=26DB.20 63B-63C=2707.20",
    "63D-63F=273D.20 640= 641=26E4.20 642=26F0.20 643=26F6.20 644=270C.20 645=2714.20",
    "646=2718.20 647=2722.20 648=2728.20 649-64A=2736.20 64B=0.6D 64C=0.70 64D=0.73 64E=0.76",
    "64F=0.7A 650=0.7D 651=0.80 652=0.81 653=0.82 654=0.83 655=0.84 656=0.86 657=0.87",
    "658=0.88 659=0.8A 65A=0.8B 65B=0.8C 65C=0.8D 65D=0.8E 65E=0.8F 65F=0.85 660-669=1F98.20",
    "66A=3AE.20 66B-66C=22D.20 66D=3A4.20 66E=2673.20 66F=26EF.20 670=0.98 671=2668.20",
    "672=2667.20 673=266B.20 674=2664.20 675=2672.20,2664.20 676=2728.20,2664.20",
    "677=272C.20,2664.20 678=2737.20,2664.20 679-67A=2687.20 67B=2675.20 67C-67D=2689.20",
    "67E=2676.20 67F=268B.20 680=2677.20 681-682=269B.20 683-684=2690.20 685=269D.20",
    "686=2692.20 687=2694.20 688-68D=26A6.20 68E-690=26AD.20 691-699=26B5.20 69A-69C=26C8.20",
    "69D=26D3.20 69E=26D5.20 69F=26D9.20 6A0=26DD.20 6A1-6A2=26E5.20 6A3-6A4=26E8.20",
    "6A5-6A6=26EB.20 6A7=26F1.20 6A8=26F3.20 6A9-6AC=26F7.20 6AD-6AE=26FC.20 6AF=26FF.20",
    "6B0-6B4=2701.20 6B5-6B8=270D.20 6B9=271E.20 6BA=2719.20 6BB-6BD=271B.20 6BE=2723.20",
    "6BF=2693.20 6C0=2727.20,0.83 6C1=2724.20 6C2=2724.20,0.83 6C3=2725.20 6C4-6CB=2729.20",
    "6CC-6CE=2738.20 6CF=2732.20 6D0-6D1=273B.20 6D2=2745.20 6D3=2745.20,0.83 6D4=280.20",
    "6D5=2727.20 6D6-6DD= 6DE=533.20 6DF-6E4= 6E5=2728.20 6E6=2737.20 6E7-6E8= 6E9=534.20",
    "6EA-6ED= 6EE=26B0.20 6EF=26BE.20 6F0-6F9=1F98.20 6FA=26CB.20 6FB=26D6.20 6FC=26DF.20",
    "6FD=2664.20,0.119 6FE=2714.20,0.119 6FF=2726.20 700=2CD.20 701-702=281.20",
    "703-708=243.20 709=272.20 70A-70D=3ED.20 70F= 710=2748.20 711=0.99 712-713=2749.20",
    "714=274A.20,0.119 715=274C.20 716=274B.20 717-719=274D.20 71A-71B=2751.20",
    "71C=2752.20,0.119 71D-71F=2753.20 720-723=2757.20 724-726=275A.20 727=275C.20,0.119",
    "728-72C=275E.20 72D=2749.20,0.11A 72E=274A.20,0.11A 72F=274C.20,0.11A 730=0.9A 731=0.9B",
    "732=0.9C 733=0.9D 734=0.9E 735=0.9F 736=0.A0 737=0.A1 738=0.A2 739=0.A3 73A=0.A4",
    "73B=0.A5 73C=0.A6 73D=0.A7 73E=0.A8 73F=0.A9 740= 741=0.33 742=0.34 743-744= 745=0.33",
    "746=0.34 747-74A= 74D=2750.20 74E=2756.20 74F=275D.20 750-755=2678.20 756=267F.20",
    "757-758=269E.20 759-75A=26B1.20 75B=26BF.20 75C=26CC.20 75D-75F=26E0.20 760-761=26ED.20",
    "762=2706.20 763-764=2709.20 765-766=2715.20 767-769=271F.20 76A=2711.20 76B-76C=26C0.20",
    "76D=26CD.20 76E-76F=26A0.20 770=26CE.20 771=26C2.20 772=26A2.20 773-774=266C.20",
    "775-777=2741.20 778-779=2733.20 77A-77B=2746.20 77C=26A3.20 77D-77E=26CF.20 77F=26FB.20",
    "780=2787.20 781-783=278A.20 784-787=278E.20 788=2794.20 789-78B=2796.20 78C=279A.20",
    "78D-78E=279E.20 78F-790=27A1.20 791-797=27A6.20 798=279B.20 799-79A=2788.20 79B=2799.20",
    "79C=278D.20 79D-79F=27A3.20 7A0-7A1=279C.20 7A2-7A3=2792.20 7A4=27A0.20 7A5=2795.20",
    "7A6-7B0=27AE.20 7B1=27AD.20 7C0-7C9=1F98.20 7CA-7E7=27B9.20 7E8=27C5.20,0.118",
    "7E9=27C6.20,0.118 7EA=27C8.20,0.118 7EB=0.AA 7EC=0.AB 7ED=0.AC 7EE=0.AD 7EF=0.AE",
    "7F0=0.AF 7F1=0.B0 7F2=0.B1 7F3=0.B2 7F4-7F5=27D7.20 7F6=546.20 7F7=2CE.20 7F8=22F.20",
    "7F9=26A.20 7FA= 800-817=264A.20 818=0.6A 819=0.6B 81A-81B=2662.20 81C=0.62 81D=0.62",
    "81E=0.63 81F=0.63 820=0.63 821=0.64 822=0.64 823=0.64 824=0.65 825=0.65 826=0.66",
    "827=0.66 828=0.67 829=0.67 82A=0.67 82B=0.68 82C=0.69 82D=0.6C 830-83E=249.20",
    "840-858=276E.20 859=0.34 85A=0.34 85B=0.34 85E=3F1.20 8A0=267E.20 8A2=2695.20",
    "8A3=26DA.20 8A4=26EA.20 8A5=26F5.20 8A6=2712.20 8A7=2717.20 8A8-8A9=266F.20 8AA=26C3.20",
    "8AB=2735.20 8AC=2671.20 8E4=0.77 8E5=0.7B 8E6=0.7E 8E7=0.6F 8E8=0.72 8E9=0.75 8EA-8EF=",
    "8F0=0.6E 8F1=0.71 8F2=0.74 8F3= 8F4=0.78 8F5=0.79 8F6=0.7F 8F7=0.91 8F8=0.92 8F9=0.96",
    "8FA=0.97 8FB=0.94 8FC=0.95 8FD=0.93 8FE=0.7C 900=0.C3 901=0.C3 902=0.C4 903=0.C5",
    "904-906=29DA.20 907-90B=29E2.20 90C=29E8.20 90D-910=29EA.20 911-917=29EF.20",
    "918-91C=29F7.20 91D-920=29FE.20 921=2A03.20 922-928=2A05.20 929=2A0B.20,0.C2",
    "92A-92C=2A0C.20 92D-92F=2A10.20 930=2A14.20 931=2A14.20,0.C2 932-933=2A15.20",
    "934=2A16.20,0.C2 935-939=2A17.20 93A-93B=2A24.20 93C=0.C2 93D=2A1C.20 93E=2A23.20",
    "93F-944=2A29.20 945=2A31.20 946-947=2A33.20 948=2A36.20 949-94D=2A38.20 94E=2A35.20",
    "94F=2A26.20 950=29D7.20 951-952= 953=0.25 954=0.24 955=2A32.20 956-957=2A27.20",
    "958=29F3.20,0.C2 959=29F4.20,0.C2 95A=29F5.20,0.C2 95B=29FB.20,0.C2 95C=2A03.20,0.C2",
    "95D=2A05.20,0.C2 95E=2A0D.20,0.C2 95F=2A12.20,0.C2 960=29E7.20 961=29E9.20",
    "962-963=2A2F.20 964-965=296.20 966-96F=1F98.20 970=400.20 971=1F48.20 972=29D9.20",
    "973-977=29DD.20 979=29FC.20 97A=2A13.20 97B=29F6.20 97C=29FD.20 97D=2A1D.20 97E=2A04.20",
    "97F=2A0F.20 981=0.C3 982=0.C4 983=0.C5 985-98B=2A3E.20 98C=2A46.20 98F-990=2A48.20",
    "993-9A8=2A4A.20 9AA-9B0=2A60.20 9B2=2A68.20 9B6-9B9=2A6A.20 9BC=0.C2 9BD-9C4=2A6E.20",
    "9C7-9C8=2A78.20 9CB-9CD=2A7A.20 9CE=2A5B.20,2A7C.20 9D7=2A7D.20 9DC=2A58.20,0.C2",
    "9DD=2A59.20,0.C2 9DF=2A65.20,0.C2 9E0=2A45.20 9E1=2A47.20 9E2-9E3=2A76.20",
    "9E6-9EF=1F98.20 9F0=2A67.20 9F1=2A69.20 9F2-9F3=1F6B.20 9F4-9F9=1D56.20 9FA=547.20",
    "9FB=1F6D.20 A01=0.C3 A02=0.C4 A03=0.C5 A05-A06=2A84.20 A07-A08=2A89.20 A09-A0A=2A81.20",
    "A0F=2A8B.20 A10=2A86.20 A13=2A83.20 A14=2A87.20 A15-A28=2A8F.20 A2A-A2F=2AA3.20",
    "A30=2AAA.20 A32=2AAB.20 A33=2AAB.20,0.C2 A35=2AAC.20 A36=2A8C.20,0.C2 A38-A39=2A8C.20",
    "A3C=0.C2 A3E-A42=2AAE.20 A47-A48=2AB3.20 A4B-A4D=2AB5.20 A51=2A8E.20 A59=2A90.20,0.C2",
    "A5A=2A91.20,0.C2 A5B=2A96.20,0.C2 A5C=2AAD.20 A5E=2AA4.20,0.C2 A66-A6F=1F98.20 A70=0.C7",
    "A71=0.C8 A72=2A88.20 A73=2A80.20 A74=2A7F.20 A75=2AA9.20 A81=0.C3 A82=0.C4 A83=0.C5",
    "A85-A8B=2AB9.20 A8C=2AC1.20 A8D=2AC3.20 A8F-A91=2AC4.20 A93-A9C=2AC7.20 A9D-AA8=2AD2.20",
    "AAA-AB0=2ADE.20 AB2=2AE5.20 AB3=2AEB.20 AB5-AB9=2AE6.20 ABC=0.C2 ABD-AC4=2AEC.20",
    "AC5=2AF6.20 AC7-AC9=2AF7.20 ACB-ACD=2AFA.20 AD0=2AB8.20 AE0=2AC0.20 AE1=2AC2.20",
    "AE2-AE3=2AF4.20 AE6-AEF=1F98.20 AF0=407.20 AF1=1F6E.20 B01=0.C3 B02=0.C4 B03=0.C5",
    "B05-B0B=2AFD.20 B0C=2B05.20 B0F-B10=2B07.20 B13-B28=2B09.20 B2A-B2F=2B1F.20 B30=2B26.20",
    "B32-B33=2B27.20 B35=2B29.20 B36-B39=2B2B.20 B3C=0.C2 B3D-B44=2B2F.20 B47-B48=2B39.20",
    "B4B-B4D=2B3B.20 B56-B57=2B3E.20 B5C=2B17.20,0.C2 B5D=2B18.20,0.C2 B5F=2B25.20",
    "B60=2B04.20 B61=2B06.20 B62-B63=2B37.20 B66-B6F=1F98.20 B70=548.20 B71=2B2A.20",
    "B72-B77=1D5C.20 B82=0.C4 B83=2B4D.20 B85-B8A=2B41.20 B8E-B90=2B47.20 B92-B94=2B4A.20",
    "B95=2B4E.20 B99-B9A=2B4F.20 B9C=2B60.20 B9E-B9F=2B51.20 BA3-BA4=2B53.20 BA8=2B55.20",
    "BA9=2B5F.20 BAA=2B56.20 BAE-BB0=2B57.20 BB1=2B5E.20 BB2=2B5A.20 BB3=2B5D.20 BB4=2B5C.20",
    "BB5=2B5B.20 BB6-BB9=2B61.20 BBE-BC2=2B65.20 BC6-BC8=2B6A.20 BCA-BCD=2B6D.20 BD0=2B40.20",
    "BD7=2B71.20 BE6-BEF=1F98.20 BF0-BF2=1D68.20 BF3-BF8=549.20 BF9=1F70.20 BFA=54F.20",
    "C01=0.C3 C02=0.C4 C03=0.C5 C05-C0B=2B72.20 C0C=2B7A.20 C0E-C10=2B7C.20 C12-C1A=2B7F.20",
    "C1B-C1C=2B89.20 C1D-C28=2B8C.20 C2A-C32=2B98.20 C33=2BA6.20 C35-C39=2BA1.20",
    "C3D-C44=2BA9.20 C46-C48=2BB3.20 C4A-C4D=2BB6.20 C55-C56=2BBA.20 C58=2B88.20 C59=2B8B.20",
    "C60=2B79.20 C61=2B7B.20 C62-C63=2BB1.20 C66-C6F=1F98.20 C78-C7B=1F98.20 C7C-C7E=1F99.20",
    "C7F=569.20 C82=0.C4 C83=0.C5 C85-C8B=2BBC.20 C8C=2BC4.20 C8E-C90=2BC6.20",
    "C92-CA8=2BC9.20 CAA-CB2=2BE0.20 CB3=2BEE.20 CB5-CB9=2BE9.20 CBC=0.C2 CBD=2BF0.20",
    "CBE-CC4=2BF4.20 CC6-CC8=2BFD.20 CCA-CCD=2C00.20 CD5-CD6=2C04.20 CDE=2BEF.20 CE0=2BC3.20",
    "CE1=2BC5.20 CE2-CE3=2BFB.20 CE6-CEF=1F98.20 CF1-CF2=2BF1.20 D02=0.C4 D03=0.C5",
    "D05-D08=2C06.20 D09-D0B=2C0B.20 D0C=2C0F.20 D0E-D10=2C11.20 D12-D30=2C14.20 D31=2C3B.20",
    "D32=2C33.20 D33-D34=2C39.20 D35-D39=2C34.20 D3A=2C3C.20 D3D=2C3D.20 D3E-D44=2C3F.20",
    "D46-D48=2C48.20 D4A-D4C=2C4B.20 D4D=2C4F.20 D4E=2C32.20,2C4F.20 D57=2C4E.20 D60=2C0E.20",
    "D61=2C10.20 D62-D63=2C46.20 D66-D6F=1F98.20 D70-D75=1D87.20 D79=56B.20",
    "D7A=2C25.20,2C4F.20 D7B=2C2A.20,2C4F.20 D7C=2C32.20,2C4F.20 D7D=2C33.20,2C4F.20",
    "D7E=2C39.20,2C4F.20 D7F=2C17.20,2C4F.20 D82=0.C4 D83=0.C5 D85-D96=2C50.20",
    "D9A-DB1=2C62.20 DB3-DBB=2C7A.20 DBD=2C83.20 DC0-DC6=2C84.20 DCA=2C9C.20 DCF-DD4=2C8B.20",
    "DD6=2C91.20 DD8=2C92.20 DD9-DDE=2C96.20 DDF=2C94.20 DF2=2C93.20 DF3=2C95.20 DF4=40A.20",
    "E01-E3A=3217.20 E3F=1F75.20 E40-E45=3251.20 E46=1F49.20 E47=0.D4 E48=0.D5 E49=0.D6",
    "E4A=0.D7 E4B=0.D8 E4C=0.D9 E4D=0.DA E4E=0.D3 E4F=40B.20 E50-E59=1F98.20 E5A-E5B=40C.20",
    "E81-E82=3258.20 E84=325A.20 E87-E88=325C.20 E8A=3260.20 E8D=3264.20 E94-E97=326A.20",
    "E99-E9F=326F.20 EA1-EA3=3277.20 EA5=327A.20 EA7=327B.20 EAA=325F.20 EAB=327E.20",
    "EAD-EB9=3280.20 EBB-EBD=328E.20 EC0-EC4=3291.20 EC6=1F4A.20 EC8=0.DB EC9=0.DC ECA=0.DD",
    "ECB=0.DE ECC=0.DF ECD=0.E0 ED0-ED9=1F98.20 EDC=327E.20,326F.20 EDD=327E.20,3277.20",
    "EDE=3257.20 EDF=3263.20 F00=331F.20,3336.20,0.C4 F01-F03=573.20 F04-F0A=410.20",
    "F0B=419.20 F0C-F12=419.20 F13=576.20 F14=25F.20 F15-F17=577.20 F18-F19= F1A-F1F=57A.20",
    "F20-F29=1F98.20 F2A-F32=1F99.20 F33=1F98.20 F34=580.20 F35= F36=581.20 F37= F38=582.20",
    "F39=0.E3 F3A-F3D=32E.20 F3E-F3F= F40=32D9.20 F41=32DC.20 F42=32DE.20",
    "F43=32DE.20,331E.20 F44=32E0.20 F45=32E2.20 F46=32E4.20 F47=32E6.20 F49=32E8.20",
    "F4A=32EA.20 F4B=32EC.20 F4C=32EE.20 F4D=32EE.20,331E.20 F4E=32F0.20 F4F=32F2.20",
    "F50=32F4.20 F51=32F6.20 F52=32F6.20,331E.20 F53=32F8.20 F54=32FA.20 F55=32FC.20",
    "F56=32FE.20 F57=32FE.20,331E.20 F58=3300.20 F59=3302.20 F5A=3304.20 F5B=3306.20",
    "F5C=3306.20,331E.20 F5D=3308.20 F5E=330A.20 F5F=330C.20 F60=330E.20 F61=3310.20",
    "F62=3312.20 F63=3315.20 F64=3317.20 F65=3319.20 F66=331B.20 F67=331D.20 F68=331F.20",
    "F69=32D9.20,331A.20 F6A=3312.20,0.119 F6B=32DB.20 F6C=3314.20 F71-F73=3329.20",
    "F74-F7D=332E.20 F7E=0.C4 F7F=0.C5 F80-F81=332C.20 F82-F83= F84=3338.20 F85=420.20",
    "F86-F87= F88=3321.20 F89=3323.20 F8A-F8B=3327.20 F8C=3325.20 F8D=3322.20 F8E=3324.20",
    "F8F=3326.20 F90=32DA.20 F91=32DD.20 F92=32DF.20 F93=32DF.20,331E.20 F94=32E1.20",
    "F95=32E3.20 F96=32E5.20 F97=32E7.20 F99=32E9.20 F9A=32EB.20 F9B=32ED.20 F9C=32EF.20",
    "F9D=32EF.20,331E.20 F9E=32F1.20 F9F=32F3.20 FA0=32F5.20 FA1=32F7.20 FA2=32F7.20,331E.20",
    "FA3=32F9.20 FA4=32FB.20 FA5=32FD.20 FA6=32FF.20 FA7=32FF.20,331E.20 FA8=3301.20",
    "FA9=3303.20 FAA=3305.20 FAB=3307.20 FAC=3307.20,331E.20 FAD=3309.20 FAE=330B.20",
    "FAF=330D.20 FB0=330F.20 FB1=3311.20 FB2=3313.20 FB3=3316.20 FB4=3318.20 FB5=331A.20",
    "FB6=331C.20 FB7=331E.20 FB8=3320.20 FB9=32DA.20,331A.20 FBA=3309.20,0.119",
    "FBB=3311.20,0.119 FBC=3313.20,0.119 FBE-FC5=583.20 FC6= FC7-FCC=58B.20 FCE-FCF=591.20",
    "FD0-FD1=417.20 FD2-FD4=421.20 FD5-FD8=593.20 FD9-FDA=424.20 1000=356C.20 1001=356E.20",
    "1002=3570.20 1003=3574.20 1004=3577.20 1005=3579.20 1006=357C.20 1007=3580.20",
    "1008=3585.20 1009=358C.20 100A-100B=3590.20 100C=3593.20 100D=3595.20 100E=3598.20",
    "100F=359B.20 1010-1012=359F.20 1013=35A4.20 1014=35A7.20 1015-1016=35AB.20 1017=35B2.20",
    "1018=35B5.20 1019=35B8.20 101A=35BA.20 101B=35BC.20 101C=35C0.20 101D=35C2.20",
    "101E=35C9.20 101F=35CB.20 1020=35D1.20 1021-1026=35D8.20 1027-102B=35E2.20 102C=35E6.20",
    "102D=35EA.20 102E=35EC.20 102F=35EE.20 1030=35F1.20 1031=35F6.20 1032=35FA.20",
    "1033=35ED.20 1034=35FC.20 1035=35F8.20 1036=0.C4 1037=0.E7 1038=0.C5 1039-103A=3602.20",
    "103B=35BB.20 103C=35BF.20 103D=35C3.20 103E=35CE.20 103F=35C9.20,3602.20,35C9.20",
    "1040-1049=1F98.20 104A-104B=2A1.20 104C-104F=43B.20 1050-1051=35C6.20 1052-1055=35DE.20",
    "1056-1059=35F2.20 105A=3578.20 105B=3586.20 105C-105D=35D3.20 105E=35AA.20 105F=35B9.20",
    "1060=35C1.20 1061=358A.20 1062=35FD.20 1063-1064=3604.20 1065=35C8.20 1066=35D7.20",
    "1067-1068=35FE.20 1069-106D=3606.20 106E=359C.20 106F-1070=35D5.20 1071=35EB.20",
    "1072=35E8.20 1073-1074=35EF.20 1075=356D.20 1076=356F.20 1077=3571.20 1078=357A.20",
    "1079=3583.20 107A=358D.20 107B=35A2.20 107C=35A8.20 107D-107E=35AD.20 107F=35B3.20",
    "1080=35C5.20 1081=35CC.20 1082=35C4.20 1083=35E7.20 1084=35F7.20 1085=35F9.20",
    "1086=3601.20 1087=360B.20 1088=360D.20 1089-108A=3610.20 108B=360C.20 108C-108D=360E.20",
    "108E=35B0.20 108F=3612.20 1090-1099=1F98.20 109A-109B=3613.20 109C=35E9.20 109D=35FB.20",
    "109E-109F=599.20 10A0=25A0.20 10A1=25A2.20 10A2=25A4.20 10A3=25A6.20 10A4=25A8.20",
    "10A5=25AA.20 10A6=25AC.20 10A7=25B0.20 10A8=25B2.20 10A9=25B4.20 10AA=25B6.20",
    "10AB=25B8.20 10AC=25BA.20 10AD=25BE.20 10AE=25C0.20 10AF=25C2.20 10B0=25C4.20",
    "10B1=25C6.20 10B2=25C8.20 10B3=25CC.20 10B4=25CE.20 10B5=25D0.20 10B6=25D2.20",
    "10B7=25D4.20 10B8=25D6.20 10B9=25D8.20 10BA=25DA.20 10BB=25DC.20 10BC=25DE.20",
    "10BD=25E0.20 10BE=25E2.20 10BF=25E6.20 10C0=25E8.20 10C1=25AE.20 10C2=25BC.20",
    "10C3=25CA.20 10C4=25E4.20 10C5=25EA.20 10C7=25ED.20 10CD=25F2.20 10D0=259F.20",
    "10D1=25A1.20 10D2=25A3.20 10D3=25A5.20 10D4=25A7.20 10D5=25A9.20 10D6=25AB.20",
    "10D7=25AF.20 10D8=25B1.20 10D9=25B3.20 10DA=25B5.20 10DB=25B7.20 10DC=25B9.20",
    "10DD=25BD.20 10DE=25BF.20 10DF=25C1.20 10E0=25C3.20 10E1=25C5.20 10E2=25C7.20",
    "10E3=25CB.20 10E4=25CD.20 10E5=25CF.20 10E6=25D1.20 10E7=25D3.20 10E8=25D5.20",
    "10E9=25D7.20 10EA=25D9.20 10EB=25DB.20 10EC=25DD.20 10ED=25DF.20 10EE=25E1.20",
    "10EF=25E5.20 10F0=25E7.20 10F1=25AD.20 10F2=25BB.20 10F3=25C9.20 10F4=25E3.20",
    "10F5=25E9.20 10F6-10F7=25EB.20 10F8-10FA=25EE.20 10FB=2CF.20 10FC=25B9.20 10FD=25F1.20",
    "10FE-10FF=25F3.20 1100-115E=4175.20 115F-11A7=41F1.20 11A8-11FF=4251.20",
    "1200-120F=2812.20 1210-121F=2823.20 1220-122F=2838.20 1230-1237=2849.20",
    "1238-123F=2858.20 1240-1248=2861.20 124A-124D=286A.20 1250-1256=286E.20 1258=2875.20",
    "125A-125D=2876.20 1260-1267=287A.20 1268-1277=2887.20 1278-127F=2898.20",
    "1280-1288=28A1.20 128A-128D=28AA.20 1290-1297=28AE.20 1298-129F=28B7.20",
    "12A0-12A7=28C0.20 12A8-12B0=28C9.20 12B2-12B5=28D2.20 12B8-12BE=28D6.20 12C0=28DD.20",
    "12C2-12C5=28DE.20 12C8-12D6=28E2.20 12D8-12DF=28F1.20 12E0-12F7=2900.20",
    "12F8-12FF=291F.20 1300-1307=2928.20 1308-1310=2931.20 1312-1315=293A.20",
    "1318-131F=293E.20 1320-1327=294A.20 1328-132F=2953.20 1330-1337=2963.20",
    "1338-133F=296C.20 1340-134F=297B.20 1350-1357=298F.20 1358-135A=299C.20 135D=0.B5",
    "135E=0.B4 135F=0.B3 1360=2D0.20 1361=258.20 1362=283.20 1363-1366=259.20 1367=273.20",
    "1368=2D1.20 1369-1371=1F99.20 1372-137C=1D90.20 1380-1383=2833.20 1384-1387=2882.20",
    "1388-138B=298B.20 138C-138F=2997.20 1390-1399=4FA.20 13A0-13F4=38DE.20 1400=20F.20",
    "1401-157B=3958.20 157C=3B05.20 157D=3AD3.20 157E-158D=3AD5.20 158E-1595=3AE6.20",
    "1596-15A6=3AF4.20 15A7-166C=3B06.20 166D=597.20 166E=286.20 166F=3AD4.20 1670=3AE5.20",
    "1671-1676=3AEE.20 1677-167F=3BCC.20 1680=209.20 1681-169A=3C1B.20 169B-169C=332.20",
    "16A0=3C35.20 16A1=3C35.20,0.118 16A2=3C36.20 16A3=3C5A.20 16A4=3C36.20,0.118",
    "16A5=3C36.20,0.119 16A6=3C37.20 16A7=3C37.20,0.118 16A8=3C38.20 16A9=3C38.20,0.118",
    "16AA=3C56.20 16AB=3C58.20 16AC=3C38.20,0.119 16AD=3C38.20,0.11A 16AE=3C38.20,0.11B",
    "16AF-16B2=3C3A.20 16B3=3C3D.20,0.118 16B4=3C3D.20,0.119 16B5=3C3D.20,0.11A",
    "16B6=3C3D.20,0.11B 16B7=3C3F.20 16B8=3C5D.20 16B9-16BA=3C40.20 16BB=3C41.20,0.118",
    "16BC=3C41.20,0.119 16BD=3C41.20,0.11A 16BE=3C42.20 16BF=3C42.20,0.118",
    "16C0=3C42.20,0.119 16C1=3C43.20 16C2=3C43.20,0.118 16C3=3C45.20 16C4=3C45.20,0.118",
    "16C5=3C46.20 16C6=3C46.20,0.118 16C7-16CA=3C47.20 16CB=3C4A.20,0.118 16CC=3C4A.20,0.11A",
    "16CD=3C4A.20,0.11B 16CE=3C4A.20,0.11C 16CF=3C4C.20 16D0=3C4C.20,0.118",
    "16D1=3C4C.20,0.119 16D2=3C4D.20 16D3=3C4D.20,0.118 16D4=3C4D.20,0.119",
    "16D5=3C48.20,0.118 16D6=3C4E.20 16D7=3C50.20 16D8=3C50.20,0.118 16D9=3C50.20,0.119",
    "16DA=3C51.20 16DB=3C51.20,0.118 16DC=3C52.20 16DD=3C52.20,0.118 16DE-16DF=3C53.20",
    "16E0=3C5B.20 16E1-16E2=3C5F.20 16E3=3C5C.20 16E4=3C5E.20 16E5-16E6=3C61.20",
    "16E7=3C62.20,0.118 16E8=3C62.20,0.119 16E9=3C40.20,0.118 16EA=3C4A.20,0.119",
    "16EB-16ED=263.20 16EE=3C46.20,3C51.20 16EF=3C50.20,0.118,3C50.20,0.118",
    "16F0=3C37.20,3C37.20 1700-170C=3486.20 170E-1714=3493.20 1720-1734=349A.20",
    "1735-1736=29E.20 1740-1753=34AF.20 1760-176C=34C3.20 176E-1770=34D0.20",
    "1772-1773=34D3.20 1780-17A2=3675.20 17A3-17B3=3699.20 17B4-17B5= 17B6-17C5=36AA.20",
    "17C6=0.C4 17C7=0.C5 17C8=0.E8 17C9=0.E9 17CA=0.EA 17CB=0.33 17CC=0.33 17CD=0.33",
    "17CE=0.33 17CF=0.33 17D0=0.33 17D1=0.33 17D2=36BA.20 17D3= 17D4-17D5=2A3.20 17D6=260.20",
    "17D7=1F4B.20 17D8-17DA=43F.20 17DB=1F76.20 17DC=3698.20 17DD=0.33 17E0-17E9=1F98.20",
    "17F0-17F9=1F98.20 1800=3F2.20 1801=27F.20 1802=230.20 1803=284.20 1804-1805=25D.20",
    "1806-1807=211.20 1808=231.20 1809=285.20 180A-180E= 1810-1819=1F98.20 1820=383E.20",
    "1821=3840.20 1822=3843.20 1823=3849.20 1824=384B.20 1825=384E.20 1826=3850.20",
    "1827-1829=3853.20 182A=385A.20 182B=385C.20 182C=385F.20 182D=3861.20 182E=3866.20",
    "182F-1831=3868.20 1832=3871.20 1833=3874.20 1834=3877.20 1835=387D.20 1836=3881.20",
    "1837=3884.20 1838=3886.20 1839=3888.20 183A=388B.20 183B-183C=3890.20 183D=3894.20",
    "183E=3898.20 183F-1842=389B.20 1843=383D.20 1844=3841.20 1845=3844.20 1846=384A.20",
    "1847=384C.20 1848=384F.20 1849=3851.20 184A=3856.20 184B=385B.20 184C=385D.20",
    "184D=3860.20 184E=3862.20 184F=3867.20 1850=3872.20 1851=3875.20 1852=3878.20",
    "1853=387E.20 1854=3892.20 1855=3882.20 1856=3887.20 1857=388C.20 1858=3896.20",
    "1859=3899.20 185A-185B=389F.20 185C=387B.20 185D=3842.20 185E=3845.20 185F=3848.20",
    "1860=3852.20 1861=384D.20 1862=3857.20 1863=388D.20 1864=3863.20 1865=3865.20",
    "1866=385E.20 1867=386B.20 1868=3873.20 1869=3876.20 186A=387F.20 186B=3889.20",
    "186C=3897.20 186D=389A.20 186E=3893.20 186F=3895.20 1870=38A1.20 1871=3879.20",
    "1872=3883.20 1873=3846.20 1874=388E.20 1875=3885.20 1876=388A.20 1877=3880.20",
    "1880-1886=3836.20 1887=383F.20 1888=3847.20 1889=388F.20 188A=3858.20 188B=387C.20",
    "188C=38A2.20 188D-188E=38A4.20 188F-1890=38A7.20 1891=38AB.20 1892-1893=38AD.20",
    "1894=38B0.20 1895=38B2.20 1896-1897=38B4.20 1898=38A9.20 1899=38B3.20 189A=3864.20",
    "189B=3859.20 189C-189D=386C.20 189E=38A3.20 189F=38A6.20 18A0=38AA.20 18A1=38AC.20",
    "18A2=386E.20 18A3=38B1.20 18A4-18A5=386F.20 18A6-18A7=38B6.20 18A8=38AF.20 18A9=38B9.20",
    "18AA=38B8.20 18B0-18F5=3BD5.20 1900-191C=3454.20 1920-192B=3471.20 1930-1938=347D.20",
    "1939=0.F3 193A=0.F4 193B=0.F5 1940=598.20 1944=26B.20 1945=274.20 1946-194F=1F98.20",
    "1950-196D=36BB.20 1970-1974=36D9.20 1980-19AB=36DE.20 19B0-19C9=370A.20",
    "19D0-19D9=1F98.20 19DA=1F99.20 19DE=36FA.20,3710.20 19DF=36FA.20,3710.20,371B.20",
    "19E0-19FF=59F.20 1A00-1A1B=34D5.20 1A1E-1A1F=2D2.20 1A20-1A4C=3724.20 1A4D-1A52=3759.20",
    "1A53=3751.20 1A54=374A.20,3770.20,374A.20 1A55-1A57=3753.20 1A58=372A.20 1A59=372A.20",
    "1A5A=373F.20 1A5B=373F.20 1A5C-1A5E=3756.20 1A60=3770.20 1A61=375F.20 1A62-1A63=3761.20",
    "1A64-1A6A=3762.20 1A6B=3752.20 1A6C=3760.20 1A6D=376F.20 1A6E-1A6F=3769.20",
    "1A70-1A72=376C.20 1A73=376B.20 1A74=0.C4 1A75=0.EB 1A76=0.EC 1A77=0.ED 1A78=0.EE",
    "1A79=0.EF 1A7A=0.F0 1A7B=0.F1 1A7C=0.F2 1A7F= 1A80-1A89=1F98.20 1A90-1A99=1F98.20",
    "1AA0-1AA6=442.20 1AA7=1F4C.20 1AA8-1AAB=2A5.20 1AAC-1AAD=449.20 1B00=0.C3 1B01=0.C3",
    "1B02=0.C4 1B03=0.C9 1B04=0.C5 1B05-1B13=37B6.20 1B14-1B22=37C7.20 1B23-1B27=37D7.20",
    "1B28-1B2F=37DD.20 1B30-1B32=37E6.20 1B33=37EB.20 1B34=0.C2 1B35-1B44=37EC.20",
    "1B45-1B46=37C5.20 1B47=37D6.20 1B48=37DC.20 1B49=37E5.20 1B4A-1B4B=37E9.20",
    "1B50-1B59=1F98.20 1B5A-1B5B=2D4.20 1B5C=287.20 1B5D=261.20 1B5E-1B5F=2A9.20 1B60=210.20",
    "1B61-1B6A=5BF.20 1B6B-1B73= 1B74-1B7C=5C9.20 1B80=0.C4 1B81=0.CB 1B82=0.C5",
    "1B83-1B8A=313A.20 1B8B-1B98=3143.20 1B99=3152.20 1B9A=3154.20 1B9B=3156.20 1B9C=3159.20",
    "1B9D=315C.20 1B9E-1B9F=315E.20 1BA0=3161.20 1BA1=3155.20 1BA2=3157.20 1BA3=315A.20",
    "1BA4-1BAB=3162.20 1BAC=3153.20 1BAD=315D.20 1BAE=3142.20 1BAF=3160.20 1BB0-1BB9=1F98.20",
    "1BBA=313A.20 1BBB=3158.20 1BBC=315B.20 1BBD=3151.20 1BBE=3141.20 1BBF=3152.20",
    "1BC0=3508.20 1BC1-1BC2=3508.20 1BC3=3509.20 1BC4-1BC5=3509.20 1BC6-1BC7=350A.20",
    "1BC8-1BC9=350B.20 1BCA-1BCB=350C.20 1BCC=350D.20 1BCD-1BCE=350D.20 1BCF-1BD2=350E.20",
    "1BD3-1BD4=3511.20 1BD5-1BD6=3512.20 1BD7-1BD8=3513.20 1BD9=3514.20 1BDA-1BDB=3514.20",
    "1BDC-1BDE=3515.20 1BDF-1BE5=3517.20 1BE6=0.C2 1BE7=351E.20 1BE8-1BEA=351E.20",
    "1BEB-1BEC=3520.20 1BED-1BEE=3521.20 1BEF-1BF3=3522.20 1BFC-1BFF=456.20",
    "1C00-1C09=33E6.20 1C0A-1C1A=33F3.20 1C1B=3405.20 1C1C-1C23=3407.20 1C24=3404.20",
    "1C25=3406.20 1C26-1C35=3410.20 1C36=340F.20 1C37=0.C2 1C3B-1C3C=29A.20 1C3D-1C3F=438.20",
    "1C40-1C49=1F98.20 1C4D-1C4F=33F0.20 1C50-1C59=1F98.20 1C5A-1C7D=38BA.20",
    "1C7E-1C7F=2CB.20 1CC0-1CC7=44B.20 1CD0-1CE8= 1CE9=2A1E.20 1CEA=2A1E.20 1CEB=2A1E.20",
    "1CEC=2A1E.20 1CED=0.C4 1CEE=2A1E.20 1CEF=2A1E.20 1CF0=2A1E.20 1CF1=2A1E.20 1CF2=0.C5",
    "1CF3=0.C5 1CF4= 1CF5-1CF6=2A1F.20 1D00=1FA6.20 1D01-1D02=1FAA.20 1D03=1FC9.20",
    "1D04=1FDA.20 1D05-1D06=1FEF.20 1D07=200B.20 1D08=2031.20 1D09=209E.20 1D0A=20B3.20",
    "1D0B=20C8.20 1D0C=20DF.20 1D0D=210D.20 1D0E=2121.20 1D0F=2140.20 1D10=2153.20",
    "1D11=2141.20 1D12=2154.20 1D13=214D.20 1D14=2147.20 1D15=216A.20 1D16-1D17=2159.20",
    "1D18=216F.20 1D19=219E.20 1D1A=21A8.20 1D1B=21FB.20 1D1C=221B.20 1D1D-1D1E=221D.20",
    "1D1F=223D.20 1D20=224B.20 1D21=225D.20 1D22=228A.20 1D23=22A7.20 1D24-1D25=22EF.20",
    "1D26=2321.20 1D27=232F.20 1D28=2335.20 1D29=233A.20 1D2A=2345.20 1D2B=2419.20",
    "1D2C=1FA2.20 1D2D=1FA2.20,0.118,2007.20 1D2E=1FBC.20 1D2F=1FC8.20 1D30=1FEB.20",
    "1D31=2007.20 1D32=2015.20 1D33=2051.20 1D34=2075.20 1D35=2090.20 1D36=20AB.20",
    "1D37=20C4.20 1D38=20D6.20 1D39=2109.20 1D3A=2118.20 1D3B=2120.20 1D3C=213C.20",
    "1D3D=2166.20 1D3E=216B.20 1D3F=2193.20 1D40=21F7.20 1D41=2217.20 1D42=2259.20",
    "1D43=1FA2.20 1D44=1FAD.20 1D45=1FB1.20 1D46=1FAB.20 1D47=1FBC.20 1D48=1FEB.20",
    "1D49=2007.20 1D4A=201A.20 1D4B=201F.20 1D4C=2031.20 1D4D=2051.20 1D4E=209E.20",
    "1D4F=20C4.20 1D50=2109.20 1D51=2137.20 1D52=213C.20 1D53=214F.20 1D54-1D55=2159.20",
    "1D56=216B.20 1D57=21F7.20 1D58=2217.20 1D59=221D.20 1D5A=2238.20 1D5B=2247.20",
    "1D5C=22F0.20 1D5D-1D5E=231F.20 1D5F=2322.20 1D60-1D61=2342.20 1D62=2090.20 1D63=2193.20",
    "1D64=2217.20 1D65=2247.20 1D66-1D67=231F.20 1D68=2339.20 1D69-1D6A=2342.20 1D6B=221F.20",
    "1D6C=1FCA.20 1D6D=1FF2.20 1D6E=2049.20 1D6F=210E.20 1D70=2122.20 1D71=2172.20",
    "1D72=21A3.20 1D73=21C0.20 1D74=21D8.20 1D75=2201.20 1D76=228F.20 1D77=206B.20",
    "1D78=2431.20 1D79=2051.20,0.119 1D7A=21F7.20,0.118,2075.20 1D7B=20A3.20 1D7C=20AA.20",
    "1D7D=2170.20 1D7E=2228.20 1D7F=2246.20 1D80=1FCC.20 1D81=1FF3.20 1D82=204A.20",
    "1D83=2062.20 1D84=20C9.20 1D85=20F1.20 1D86=210F.20 1D87=212C.20 1D88=2173.20",
    "1D89=21AD.20 1D8A=21D9.20 1D8B=21E9.20 1D8C=224D.20 1D8D=2268.20 1D8E=2290.20",
    "1D8F=1FA8.20 1D90=1FB6.20 1D91=1FFC.20 1D92=2012.20 1D93=2023.20 1D94=2030.20",
    "1D95=201E.20 1D96=20A4.20 1D97=2156.20 1D98=21F2.20 1D99=2229.20 1D9A=22AC.20",
    "1D9B=1FB7.20 1D9C=1FD6.20 1D9D=1FE5.20 1D9E=1FEB.20,0.118 1D9F=202C.20 1DA0=2042.20",
    "1DA1=20BC.20 1DA2=2055.20 1DA3=222C.20 1DA4=209F.20 1DA5=20A6.20 1DA6=2098.20",
    "1DA7=20A3.20 1DA8=20B8.20 1DA9=20F2.20 1DAA=20F1.20 1DAB=20DA.20 1DAC=2110.20",
    "1DAD=223E.20 1DAE=2123.20 1DAF=212D.20 1DB0=211C.20 1DB1=215C.20 1DB2=217B.20",
    "1DB3=21DA.20 1DB4=21E4.20 1DB5=2202.20 1DB6=2222.20 1DB7=2242.20 1DB8=221B.20",
    "1DB9=224E.20 1DBA=2255.20 1DBB=2286.20 1DBC=2295.20 1DBD=2299.20 1DBE=22A3.20",
    "1DBF=232A.20 1DC0=0.33 1DC1=0.33 1DC2=0.34 1DC3=0.33 1DC4=0.33 1DC5=0.33 1DC6=0.33",
    "1DC7=0.33 1DC8=0.33 1DC9=0.33 1DCA=2193.20 1DCB=0.33 1DCC=0.33 1DCD=0.33 1DCE=0.33",
    "1DCF=0.34 1DD0=0.34 1DD1=0.33 1DD2=22C5.20 1DD3=1FA2.20,0.118",
    "1DD4=1FA2.20,0.118,2007.20 1DD5=1FA2.20,213C.20 1DD6=1FA2.20,2247.20 1DD7=1FD6.20,0.30",
    "1DD8=1FEB.20,0.119 1DD9=1FEB.20,0.118 1DDA=2051.20 1DDB=205A.20 1DDC=20C4.20",
    "1DDD=20D6.20 1DDE=20DA.20 1DDF=210D.20 1DE0=2118.20 1DE1=211C.20 1DE2=2198.20",
    "1DE3=219D.20 1DE4=21D2.20 1DE5=21D2.20,0.119 1DE6=2286.20 1DFC=0.34 1DFD=0.34 1DFE=0.33",
    "1DFF=0.34 1E00=1FA2.20,0.44 1E01=1FA2.20,0.44 1E02=1FBC.20,0.2E 1E03=1FBC.20,0.2E",
    "1E04=1FBC.20,0.42 1E05=1FBC.20,0.42 1E06=1FBC.20,0.49 1E07=1FBC.20,0.49",
    "1E08=1FD6.20,0.30,0.24 1E09=1FD6.20,0.30,0.24 1E0A=1FEB.20,0.2E 1E0B=1FEB.20,0.2E",
    "1E0C=1FEB.20,0.42 1E0D=1FEB.20,0.42 1E0E=1FEB.20,0.49 1E0F=1FEB.20,0.49",
    "1E10=1FEB.20,0.30 1E11=1FEB.20,0.30 1E12=1FEB.20,0.46 1E13=1FEB.20,0.46",
    "1E14=2007.20,0.32,0.25 1E15=2007.20,0.32,0.25 1E16=2007.20,0.32,0.24",
    "1E17=2007.20,0.32,0.24 1E18=2007.20,0.46 1E19=2007.20,0.46 1E1A=2007.20,0.48",
    "1E1B=2007.20,0.48 1E1C=2007.20,0.30,0.26 1E1D=2007.20,0.30,0.26 1E1E=2042.20,0.2E",
    "1E1F=2042.20,0.2E 1E20=2051.20,0.32 1E21=2051.20,0.32 1E22=2075.20,0.2E",
    "1E23=2075.20,0.2E 1E24=2075.20,0.42 1E25=2075.20,0.42 1E26=2075.20,0.2B",
    "1E27=2075.20,0.2B 1E28=2075.20,0.30 1E29=2075.20,0.30 1E2A=2075.20,0.47",
    "1E2B=2075.20,0.47 1E2C=2090.20,0.48 1E2D=2090.20,0.48 1E2E=2090.20,0.2B,0.24",
    "1E2F=2090.20,0.2B,0.24 1E30=20C4.20,0.24 1E31=20C4.20,0.24 1E32=20C4.20,0.42",
    "1E33=20C4.20,0.42 1E34=20C4.20,0.49 1E35=20C4.20,0.49 1E36=20D6.20,0.42",
    "1E37=20D6.20,0.42 1E38=20D6.20,0.42,0.32 1E39=20D6.20,0.42,0.32 1E3A=20D6.20,0.49",
    "1E3B=20D6.20,0.49 1E3C=20D6.20,0.46 1E3D=20D6.20,0.46 1E3E=2109.20,0.24",
    "1E3F=2109.20,0.24 1E40=2109.20,0.2E 1E41=2109.20,0.2E 1E42=2109.20,0.42",
    "1E43=2109.20,0.42 1E44=2118.20,0.2E 1E45=2118.20,0.2E 1E46=2118.20,0.42",
    "1E47=2118.20,0.42 1E48=2118.20,0.49 1E49=2118.20,0.49 1E4A=2118.20,0.46",
    "1E4B=2118.20,0.46 1E4C=213C.20,0.2D,0.24 1E4D=213C.20,0.2D,0.24 1E4E=213C.20,0.2D,0.2B",
    "1E4F=213C.20,0.2D,0.2B 1E50=213C.20,0.32,0.25 1E51=213C.20,0.32,0.25",
    "1E52=213C.20,0.32,0.24 1E53=213C.20,0.32,0.24 1E54=216B.20,0.24 1E55=216B.20,0.24",
    "1E56=216B.20,0.2E 1E57=216B.20,0.2E 1E58=2193.20,0.2E 1E59=2193.20,0.2E",
    "1E5A=2193.20,0.42 1E5B=2193.20,0.42 1E5C=2193.20,0.42,0.32 1E5D=2193.20,0.42,0.32",
    "1E5E=2193.20,0.49 1E5F=2193.20,0.49 1E60=21D2.20,0.2E 1E61=21D2.20,0.2E",
    "1E62=21D2.20,0.42 1E63=21D2.20,0.42 1E64=21D2.20,0.24,0.2E 1E65=21D2.20,0.24,0.2E",
    "1E66=21D2.20,0.28,0.2E 1E67=21D2.20,0.28,0.2E 1E68=21D2.20,0.42,0.2E",
    "1E69=21D2.20,0.42,0.2E 1E6A=21F7.20,0.2E 1E6B=21F7.20,0.2E 1E6C=21F7.20,0.42",
    "1E6D=21F7.20,0.42 1E6E=21F7.20,0.49 1E6F=21F7.20,0.49 1E70=21F7.20,0.46",
    "1E71=21F7.20,0.46 1E72=2217.20,0.43 1E73=2217.20,0.43 1E74=2217.20,0.48",
    "1E75=2217.20,0.48 1E76=2217.20,0.46 1E77=2217.20,0.46 1E78=2217.20,0.2D,0.24",
    "1E79=2217.20,0.2D,0.24 1E7A=2217.20,0.32,0.2B 1E7B=2217.20,0.32,0.2B 1E7C=2247.20,0.2D",
    "1E7D=2247.20,0.2D 1E7E=2247.20,0.42 1E7F=2247.20,0.42 1E80=2259.20,0.25",
    "1E81=2259.20,0.25 1E82=2259.20,0.24 1E83=2259.20,0.24 1E84=2259.20,0.2B",
    "1E85=2259.20,0.2B 1E86=2259.20,0.2E 1E87=2259.20,0.2E 1E88=2259.20,0.42",
    "1E89=2259.20,0.42 1E8A=2264.20,0.2E 1E8B=2264.20,0.2E 1E8C=2264.20,0.2B",
    "1E8D=2264.20,0.2B 1E8E=2270.20,0.2E 1E8F=2270.20,0.2E 1E90=2286.20,0.27",
    "1E91=2286.20,0.27 1E92=2286.20,0.42 1E93=2286.20,0.42 1E94=2286.20,0.49",
    "1E95=2286.20,0.49 1E96=2075.20,0.49 1E97=21F7.20,0.2B 1E98=2259.20,0.29",
    "1E99=2270.20,0.29 1E9A=1FA2.20,22E5.20 1E9B=21D2.20,0.119,0.2E 1E9C-1E9D=21E2.20",
    "1E9E=21D2.20,0.118,21D2.20 1E9F=2006.20 1EA0=1FA2.20,0.42 1EA1=1FA2.20,0.42",
    "1EA2=1FA2.20,0.3B 1EA3=1FA2.20,0.3B 1EA4=1FA2.20,0.27,0.24 1EA5=1FA2.20,0.27,0.24",
    "1EA6=1FA2.20,0.27,0.25 1EA7=1FA2.20,0.27,0.25 1EA8=1FA2.20,0.27,0.3B",
    "1EA9=1FA2.20,0.27,0.3B 1EAA=1FA2.20,0.27,0.2D 1EAB=1FA2.20,0.27,0.2D",
    "1EAC=1FA2.20,0.42,0.27 1EAD=1FA2.20,0.42,0.27 1EAE=1FA2.20,0.26,0.24",
    "1EAF=1FA2.20,0.26,0.24 1EB0=1FA2.20,0.26,0.25 1EB1=1FA2.20,0.26,0.25",
    "1EB2=1FA2.20,0.26,0.3B 1EB3=1FA2.20,0.26,0.3B 1EB4=1FA2.20,0.26,0.2D",
    "1EB5=1FA2.20,0.26,0.2D 1EB6=1FA2.20,0.42,0.26 1EB7=1FA2.20,0.42,0.26 1EB8=2007.20,0.42",
    "1EB9=2007.20,0.42 1EBA=2007.20,0.3B 1EBB=2007.20,0.3B 1EBC=2007.20,0.2D",
    "1EBD=2007.20,0.2D 1EBE=2007.20,0.27,0.24 1EBF=2007.20,0.27,0.24 1EC0=2007.20,0.27,0.25",
    "1EC1=2007.20,0.27,0.25 1EC2=2007.20,0.27,0.3B 1EC3=2007.20,0.27,0.3B",
    "1EC4=2007.20,0.27,0.2D 1EC5=2007.20,0.27,0.2D 1EC6=2007.20,0.42,0.27",
    "1EC7=2007.20,0.42,0.27 1EC8=2090.20,0.3B 1EC9=2090.20,0.3B 1ECA=2090.20,0.42",
    "1ECB=2090.20,0.42 1ECC=213C.20,0.42 1ECD=213C.20,0.42 1ECE=213C.20,0.3B",
    "1ECF=213C.20,0.3B 1ED0=213C.20,0.27,0.24 1ED1=213C.20,0.27,0.24 1ED2=213C.20,0.27,0.25",
    "1ED3=213C.20,0.27,0.25 1ED4=213C.20,0.27,0.3B 1ED5=213C.20,0.27,0.3B",
    "1ED6=213C.20,0.27,0.2D 1ED7=213C.20,0.27,0.2D 1ED8=213C.20,0.42,0.27",
    "1ED9=213C.20,0.42,0.27 1EDA=213C.20,0.3F,0.24 1EDB=213C.20,0.3F,0.24",
    "1EDC=213C.20,0.3F,0.25 1EDD=213C.20,0.3F,0.25 1EDE=213C.20,0.3F,0.3B",
    "1EDF=213C.20,0.3F,0.3B 1EE0=213C.20,0.3F,0.2D 1EE1=213C.20,0.3F,0.2D",
    "1EE2=213C.20,0.3F,0.42 1EE3=213C.20,0.3F,0.42 1EE4=2217.20,0.42 1EE5=2217.20,0.42",
    "1EE6=2217.20,0.3B 1EE7=2217.20,0.3B 1EE8=2217.20,0.3F,0.24 1EE9=2217.20,0.3F,0.24",
    "1EEA=2217.20,0.3F,0.25 1EEB=2217.20,0.3F,0.25 1EEC=2217.20,0.3F,0.3B",
    "1EED=2217.20,0.3F,0.3B 1EEE=2217.20,0.3F,0.2D 1EEF=2217.20,0.3F,0.2D",
    "1EF0=2217.20,0.3F,0.42 1EF1=2217.20,0.3F,0.42 1EF2=2270.20,0.25 1EF3=2270.20,0.25",
    "1EF4=2270.20,0.42 1EF5=2270.20,0.42 1EF6=2270.20,0.3B 1EF7=2270.20,0.3B",
    "1EF8=2270.20,0.2D 1EF9=2270.20,0.2D 1EFA=20D6.20,20D6.20 1EFB=20D6.20,20D6.20",
    "1EFC=2254.20 1EFD=2254.20 1EFE=2280.20 1EFF=2280.20 1F00=231E.20,0.22 1F01=231E.20,0.23",
    "1F02=231E.20,0.22,0.25 1F03=231E.20,0.23,0.25 1F04=231E.20,0.22,0.24",
    "1F05=231E.20,0.23,0.24 1F06=231E.20,0.22,0.2A 1F07=231E.20,0.23,0.2A 1F08=231E.20,0.22",
    "1F09=231E.20,0.23 1F0A=231E.20,0.22,0.25 1F0B=231E.20,0.23,0.25 1F0C=231E.20,0.22,0.24",
    "1F0D=231E.20,0.23,0.24 1F0E=231E.20,0.22,0.2A 1F0F=231E.20,0.23,0.2A 1F10=2323.20,0.22",
    "1F11=2323.20,0.23 1F12=2323.20,0.22,0.25 1F13=2323.20,0.23,0.25 1F14=2323.20,0.22,0.24",
    "1F15=2323.20,0.23,0.24 1F18=2323.20,0.22 1F19=2323.20,0.23 1F1A=2323.20,0.22,0.25",
    "1F1B=2323.20,0.23,0.25 1F1C=2323.20,0.22,0.24 1F1D=2323.20,0.23,0.24 1F20=2329.20,0.22",
    "1F21=2329.20,0.23 1F22=2329.20,0.22,0.25 1F23=2329.20,0.23,0.25 1F24=2329.20,0.22,0.24",
    "1F25=2329.20,0.23,0.24 1F26=2329.20,0.22,0.2A 1F27=2329.20,0.23,0.2A 1F28=2329.20,0.22",
    "1F29=2329.20,0.23 1F2A=2329.20,0.22,0.25 1F2B=2329.20,0.23,0.25 1F2C=2329.20,0.22,0.24",
    "1F2D=2329.20,0.23,0.24 1F2E=2329.20,0.22,0.2A 1F2F=2329.20,0.23,0.2A 1F30=232B.20,0.22",
    "1F31=232B.20,0.23 1F32=232B.20,0.22,0.25 1F33=232B.20,0.23,0.25 1F34=232B.20,0.22,0.24",
    "1F35=232B.20,0.23,0.24 1F36=232B.20,0.22,0.2A 1F37=232B.20,0.23,0.2A 1F38=232B.20,0.22",
    "1F39=232B.20,0.23 1F3A=232B.20,0.22,0.25 1F3B=232B.20,0.23,0.25 1F3C=232B.20,0.22,0.24",
    "1F3D=232B.20,0.23,0.24 1F3E=232B.20,0.22,0.2A 1F3F=232B.20,0.23,0.2A 1F40=2333.20,0.22",
    "1F41=2333.20,0.23 1F42=2333.20,0.22,0.25 1F43=2333.20,0.23,0.25 1F44=2333.20,0.22,0.24",
    "1F45=2333.20,0.23,0.24 1F48=2333.20,0.22 1F49=2333.20,0.23 1F4A=2333.20,0.22,0.25",
    "1F4B=2333.20,0.23,0.25 1F4C=2333.20,0.22,0.24 1F4D=2333.20,0.23,0.24 1F50=2341.20,0.22",
    "1F51=2341.20,0.23 1F52=2341.20,0.22,0.25 1F53=2341.20,0.23,0.25 1F54=2341.20,0.22,0.24",
    "1F55=2341.20,0.23,0.24 1F56=2341.20,0.22,0.2A 1F57=2341.20,0.23,0.2A 1F59=2341.20,0.23",
    "1F5B=2341.20,0.23,0.25 1F5D=2341.20,0.23,0.24 1F5F=2341.20,0.23,0.2A 1F60=2346.20,0.22",
    "1F61=2346.20,0.23 1F62=2346.20,0.22,0.25 1F63=2346.20,0.23,0.25 1F64=2346.20,0.22,0.24",
    "1F65=2346.20,0.23,0.24 1F66=2346.20,0.22,0.2A 1F67=2346.20,0.23,0.2A 1F68=2346.20,0.22",
    "1F69=2346.20,0.23 1F6A=2346.20,0.22,0.25 1F6B=2346.20,0.23,0.25 1F6C=2346.20,0.22,0.24",
    "1F6D=2346.20,0.23,0.24 1F6E=2346.20,0.22,0.2A 1F6F=2346.20,0.23,0.2A 1F70=231E.20,0.25",
    "1F71=231E.20,0.24 1F72=2323.20,0.25 1F73=2323.20,0.24 1F74=2329.20,0.25",
    "1F75=2329.20,0.24 1F76=232B.20,0.25 1F77=232B.20,0.24 1F78=2333.20,0.25",
    "1F79=2333.20,0.24 1F7A=2341.20,0.25 1F7B=2341.20,0.24 1F7C=2346.20,0.25",
    "1F7D=2346.20,0.24 1F80=231E.20,0.22,0.4C 1F81=231E.20,0.23,0.4C",
    "1F82=231E.20,0.22,0.25,0.4C 1F83=231E.20,0.23,0.25,0.4C 1F84=231E.20,0.22,0.24,0.4C",
    "1F85=231E.20,0.23,0.24,0.4C 1F86=231E.20,0.22,0.2A,0.4C 1F87=231E.20,0.23,0.2A,0.4C",
    "1F88=231E.20,0.22,0.4C 1F89=231E.20,0.23,0.4C 1F8A=231E.20,0.22,0.25,0.4C",
    "1F8B=231E.20,0.23,0.25,0.4C 1F8C=231E.20,0.22,0.24,0.4C 1F8D=231E.20,0.23,0.24,0.4C",
    "1F8E=231E.20,0.22,0.2A,0.4C 1F8F=231E.20,0.23,0.2A,0.4C 1F90=2329.20,0.22,0.4C",
    "1F91=2329.20,0.23,0.4C 1F92=2329.20,0.22,0.25,0.4C 1F93=2329.20,0.23,0.25,0.4C",
    "1F94=2329.20,0.22,0.24,0.4C 1F95=2329.20,0.23,0.24,0.4C 1F96=2329.20,0.22,0.2A,0.4C",
    "1F97=2329.20,0.23,0.2A,0.4C 1F98=2329.20,0.22,0.4C 1F99=2329.20,0.23,0.4C",
    "1F9A=2329.20,0.22,0.25,0.4C 1F9B=2329.20,0.23,0.25,0.4C 1F9C=2329.20,0.22,0.24,0.4C",
    "1F9D=2329.20,0.23,0.24,0.4C 1F9E=2329.20,0.22,0.2A,0.4C 1F9F=2329.20,0.23,0.2A,0.4C",
    "1FA0=2346.20,0.22,0.4C 1FA1=2346.20,0.23,0.4C 1FA2=2346.20,0.22,0.25,0.4C",
    "1FA3=2346.20,0.23,0.25,0.4C 1FA4=2346.20,0.22,0.24,0.4C 1FA5=2346.20,0.23,0.24,0.4C",
    "1FA6=2346.20,0.22,0.2A,0.4C 1FA7=2346.20,0.23,0.2A,0.4C 1FA8=2346.20,0.22,0.4C",
    "1FA9=2346.20,0.23,0.4C 1FAA=2346.20,0.22,0.25,0.4C 1FAB=2346.20,0.23,0.25,0.4C",
    "1FAC=2346.20,0.22,0.24,0.4C 1FAD=2346.20,0.23,0.24,0.4C 1FAE=2346.20,0.22,0.2A,0.4C",
    "1FAF=2346.20,0.23,0.2A,0.4C 1FB0=231E.20,0.26 1FB1=231E.20,0.32 1FB2=231E.20,0.25,0.4C",
    "1FB3=231E.20,0.4C 1FB4=231E.20,0.24,0.4C 1FB6=231E.20,0.2A 1FB7=231E.20,0.2A,0.4C",
    "1FB8=231E.20,0.26 1FB9=231E.20,0.32 1FBA=231E.20,0.25 1FBB=231E.20,0.24",
    "1FBC=231E.20,0.4C 1FBD=4C0.20 1FBE=232B.20 1FBF=4C0.20 1FC0=4C2.20 1FC1=4BB.20,0.2A",
    "1FC2=2329.20,0.25,0.4C 1FC3=2329.20,0.4C 1FC4=2329.20,0.24,0.4C 1FC6=2329.20,0.2A",
    "1FC7=2329.20,0.2A,0.4C 1FC8=2323.20,0.25 1FC9=2323.20,0.24 1FCA=2329.20,0.25",
    "1FCB=2329.20,0.24 1FCC=2329.20,0.4C 1FCD=4C0.20,0.25 1FCE=4C0.20,0.24 1FCF=4C0.20,0.2A",
    "1FD0=232B.20,0.26 1FD1=232B.20,0.32 1FD2=232B.20,0.2B,0.25 1FD3=232B.20,0.2B,0.24",
    "1FD6=232B.20,0.2A 1FD7=232B.20,0.2B,0.2A 1FD8=232B.20,0.26 1FD9=232B.20,0.32",
    "1FDA=232B.20,0.25 1FDB=232B.20,0.24 1FDD=4C1.20,0.25 1FDE=4C1.20,0.24 1FDF=4C1.20,0.2A",
    "1FE0=2341.20,0.26 1FE1=2341.20,0.32 1FE2=2341.20,0.2B,0.25 1FE3=2341.20,0.2B,0.24",
    "1FE4=2339.20,0.22 1FE5=2339.20,0.23 1FE6=2341.20,0.2A 1FE7=2341.20,0.2B,0.2A",
    "1FE8=2341.20,0.26 1FE9=2341.20,0.32 1FEA=2341.20,0.25 1FEB=2341.20,0.24",
    "1FEC=2339.20,0.23 1FED=4BB.20,0.25 1FEE=4BB.20,0.24 1FEF=4B4.20 1FF2=2346.20,0.25,0.4C",
    "1FF3=2346.20,0.4C 1FF4=2346.20,0.24,0.4C 1FF6=2346.20,0.2A 1FF7=2346.20,0.2A,0.4C",
    "1FF8=2333.20,0.25 1FF9=2333.20,0.24 1FFA=2346.20,0.25 1FFB=2346.20,0.24",
    "1FFC=2346.20,0.4C 1FFD=4B5.20 1FFE=4C1.20 2000=209.20 2001=209.20 2002=209.20",
    "2003=209.20 2004=209.20 2005=209.20 2006=209.20 2007=209.20 2008=209.20 2009=209.20",
    "200A=209.20 200B-200F= 2010=213.20 2011-2015=213.20 2016=394.20 2017=20C.20",
    "2018-201B=317.20 201C-201F=31E.20 2020-2021=3B3.20 2022-2023=3B9.20 2024=27E.20",
    "2025=27E.20,27E.20 2026=27E.20,27E.20,27E.20 2027=3BB.20 2028-2029=207.20 202A-202E=",
    "202F=209.20 2030=3AF.20 2031=3B1.20 2032=3BF.20 2033=3BF.20,3BF.20",
    "2034=3BF.20,3BF.20,3BF.20 2035=3C0.20 2036=3C0.20,3C0.20 2037=3C0.20,3C0.20,3C0.20",
    "2038=3C3.20 2039-203A=31B.20 203B=3C4.20 203C=267.20,267.20 203D=27C.20 203E=20A.20",
    "203F=3C5.20 2040=3C7.20 2041-2042=3C9.20 2043=3BC.20 2044=676.20 2045-2046=334.20",
    "2047=26D.20,26D.20 2048=26D.20,267.20 2049=267.20,26D.20 204A=3AA.20 204B=39D.20",
    "204C-204D=3BD.20 204E=3A2.20 204F=23C.20 2050=3C8.20 2051=3A3.20 2052=672.20",
    "2053=21A.20 2054=3C6.20 2055-2056=2F9.20 2057=3BF.20,3BF.20,3BF.20,3BF.20",
    "2058-205E=2FB.20 205F=209.20 2060-2064= 206A-206F= 2070=1F98.20 2071=2090.20",
    "2074-2079=1F9C.20 207A=666.20 207B=671.20 207C=66B.20 207D-207E=328.20 207F=2118.20",
    "2080-2089=1F98.20 208A=666.20 208B=671.20 208C=66B.20 208D-208E=328.20 2090=1FA2.20",
    "2091=2007.20 2092=213C.20 2093=2264.20 2094=201A.20 2095=2075.20 2096=20C4.20",
    "2097=20D6.20 2098=2109.20 2099=2118.20 209A=216B.20 209B=21D2.20 209C=21F7.20",
    "20A0-20A7=1F78.20 20A8=2193.20,21D2.20 20A9-20B9=1F80.20 20BA=1F92.20 20D0=0.109",
    "20D1=0.10A 20D2=0.10B 20D3=0.10B 20D4=0.10C 20D5=0.10D 20D6=0.10E 20D7=0.10F 20D8=0.35",
    "20D9=0.35 20DA=0.35 20DB=0.110 20DC=0.111 20DD=0.36 20DE=0.36 20DF=0.36 20E0=0.36",
    "20E1=0.112 20E2=0.36 20E3=0.36 20E4=0.36 20E5=0.35 20E6=0.113 20E7=0.114 20E8=0.115",
    "20E9=0.116 20EA=0.35 20EB=0.35 20EC=0.34 20ED=0.34 20EE=0.34 20EF=0.34 20F0=0.33",
    "2100=1FA2.20,3A6.20,1FD6.20 2101=1FA2.20,3A6.20,21D2.20 2102=1FD6.20",
    "2103=52A.20,1FD6.20 2104=5D6.20 2105=1FD6.20,3A6.20,213C.20 2106=1FD6.20,3A6.20,2217.20",
    "2107=201F.20 2108=5D7.20 2109=52A.20,2042.20 210A=2051.20 210B=2075.20 210C=2075.20",
    "210D=2075.20 210E=2075.20 210F=2075.20,0.39 2110=2090.20 2111=2090.20 2112=20D6.20",
    "2113=20D6.20 2114=5D8.20 2115=2118.20 2116=2118.20,213C.20 2117-2118=5D9.20",
    "2119=216B.20 211A=2180.20 211B=2193.20 211C=2193.20 211D=2193.20 211E-211F=5DB.20",
    "2120=21D2.20,2109.20 2121=21F7.20,2007.20,20D6.20 2122=21F7.20,2109.20 2123=5DD.20",
    "2124=2286.20 2125=5DE.20 2126=2346.20 2127=5DF.20 2128=2286.20 2129=5E0.20 212A=20C4.20",
    "212B=1FA2.20,0.29 212C=1FBC.20 212D=1FD6.20 212E=5E1.20 212F=2007.20 2130=2007.20",
    "2131=2042.20 2132=204F.20 2133=2109.20 2134=213C.20 2135-2138=261E.20 2139=2090.20",
    "213A=5E2.20 213B=2042.20,1FA2.20,2264.20 213C=2334.20 213D=2320.20 213E=2320.20",
    "213F=2334.20 2140=665.20 2141-2144=5E3.20 2145=1FEB.20 2146=1FEB.20 2147=2007.20",
    "2148=2090.20 2149=20AB.20 214A=5E7.20 214B=701.20 214C=5E8.20",
    "214D=1FA2.20,3A6.20,21D2.20 214E=204F.20 214F=5E9.20 2150=1F99.20,676.20,1F9F.20",
    "2151=1F99.20,676.20,1FA1.20 2152=1F99.20,676.20,1F99.20,1F98.20",
    "2153=1F99.20,676.20,1F9B.20 2154=1F9A.20,676.20,1F9B.20 2155=1F99.20,676.20,1F9D.20",
    "2156=1F9A.20,676.20,1F9D.20 2157=1F9B.20,676.20,1F9D.20 2158=1F9C.20,676.20,1F9D.20",
    "2159=1F99.20,676.20,1F9E.20 215A=1F9D.20,676.20,1F9E.20 215B=1F99.20,676.20,1FA0.20",
    "215C=1F9B.20,676.20,1FA0.20 215D=1F9D.20,676.20,1FA0.20 215E=1F9F.20,676.20,1FA0.20",
    "215F=1F99.20,676.20 2160=2090.20 2161=2090.20,2090.20 2162=2090.20,2090.20,2090.20",
    "2163=2090.20,2247.20 2164=2247.20 2165=2247.20,2090.20 2166=2247.20,2090.20,2090.20",
    "2167=2247.20,2090.20,2090.20,2090.20 2168=2090.20,2264.20 2169=2264.20",
    "216A=2264.20,2090.20 216B=2264.20,2090.20,2090.20 216C=20D6.20 216D=1FD6.20",
    "216E=1FEB.20 216F=2109.20 2170=2090.20 2171=2090.20,2090.20",
    "2172=2090.20,2090.20,2090.20 2173=2090.20,2247.20 2174=2247.20 2175=2247.20,2090.20",
    "2176=2247.20,2090.20,2090.20 2177=2247.20,2090.20,2090.20,2090.20 2178=2090.20,2264.20",
    "2179=2264.20 217A=2264.20,2090.20 217B=2264.20,2090.20,2090.20 217C=20D6.20",
    "217D=1FD6.20 217E=1FEB.20 217F=2109.20 2180-2182=1D9B.20 2183=1FE9.20 2184=1FE9.20",
    "2185=1F9E.20 2186-2188=1D9E.20 2189=1F98.20,676.20,1F9B.20 2190=5EC.20 2191=5EE.20",
    "2192=5ED.20 2193-2199=5EF.20 219A=5EC.20,0.2F 219B=5ED.20,0.2F 219C-21AD=5F6.20",
    "21AE=5F0.20,0.2F 21AF-21CC=608.20 21CD=626.20,0.2F 21CE=62A.20,0.2F 21CF=628.20,0.2F",
    "21D0-2203=626.20 2204=659.20,0.2F 2205-2208=65A.20 2209=65D.20,0.2F 220A-220B=65E.20",
    "220C=65F.20,0.2F 220D=660.20 220E-2211=662.20 2212=671.20 2213-2215=673.20",
    "2216-221B=677.20 221C=67E.20 221D-2223=680.20 2224=686.20,0.2F 2225=687.20",
    "2226=687.20,0.2F 2227-222B=688.20 222C=68C.20,68C.20 222D=68C.20,68C.20,68C.20",
    "222E=68D.20 222F=68D.20,68D.20 2230=68D.20,68D.20,68D.20 2231-2240=68E.20",
    "2241=699.20,0.2F 2242-2243=69E.20 2244=69F.20,0.2F 2245-2246=6A0.20 2247=6A0.20,0.2F",
    "2248=6A2.20 2249=6A2.20,0.2F 224A-225F=6A3.20 2260=66B.20,0.2F 2261=6B9.20",
    "2262=6B9.20,0.2F 2263-226C=6BA.20 226D=6A6.20,0.2F 226E=66A.20,0.2F 226F=66C.20,0.2F",
    "2270=6BB.20,0.2F 2271=6BC.20,0.2F 2272-2273=6C4.20 2274=6C4.20,0.2F 2275=6C5.20,0.2F",
    "2276-2277=6C6.20 2278=6C6.20,0.2F 2279=6C7.20,0.2F 227A-227F=6C8.20 2280=6C8.20,0.2F",
    "2281=6C9.20,0.2F 2282-2283=6CE.20 2284=6CE.20,0.2F 2285=6CF.20,0.2F 2286-2287=6D0.20",
    "2288=6D0.20,0.2F 2289=6D1.20,0.2F 228A-22AB=6D2.20 22AC=6EA.20,0.2F 22AD=6F0.20,0.2F",
    "22AE=6F1.20,0.2F 22AF=6F3.20,0.2F 22B0-22BC=6F4.20 22BD-22DF=702.20 22E0=6CA.20,0.2F",
    "22E1=6CB.20,0.2F 22E2=6D9.20,0.2F 22E3=6DA.20,0.2F 22E4-22E9=725.20 22EA=6F6.20,0.2F",
    "22EB=6F7.20,0.2F 22EC=6F8.20,0.2F 22ED=6F9.20,0.2F 22EE-2307=72B.20 2308-230B=336.20",
    "230C-2328=745.20 2329-232A=380.20 232B-23F3=762.20 2400-2426=837.20 2440-244A=85E.20",
    "2460-2468=1F99.20 2469=1F99.20,1F98.20 246A=1F99.20,1F99.20 246B=1F99.20,1F9A.20",
    "246C=1F99.20,1F9B.20 246D=1F99.20,1F9C.20 246E=1F99.20,1F9D.20 246F=1F99.20,1F9E.20",
    "2470=1F99.20,1F9F.20 2471=1F99.20,1FA0.20 2472=1F99.20,1FA1.20 2473=1F9A.20,1F98.20",
    "2474=328.20,1F99.20,329.20 2475=328.20,1F9A.20,329.20 2476=328.20,1F9B.20,329.20",
    "2477=328.20,1F9C.20,329.20 2478=328.20,1F9D.20,329.20 2479=328.20,1F9E.20,329.20",
    "247A=328.20,1F9F.20,329.20 247B=328.20,1FA0.20,329.20 247C=328.20,1FA1.20,329.20",
    "247D=328.20,1F99.20,1F98.20,329.20 247E=328.20,1F99.20,1F99.20,329.20",
    "247F=328.20,1F99.20,1F9A.20,329.20 2480=328.20,1F99.20,1F9B.20,329.20",
    "2481=328.20,1F99.20,1F9C.20,329.20 2482=328.20,1F99.20,1F9D.20,329.20",
    "2483=328.20,1F99.20,1F9E.20,329.20 2484=328.20,1F99.20,1F9F.20,329.20",
    "2485=328.20,1F99.20,1FA0.20,329.20 2486=328.20,1F99.20,1FA1.20,329.20",
    "2487=328.20,1F9A.20,1F98.20,329.20 2488=1F99.20,27E.20 2489=1F9A.20,27E.20",
    "248A=1F9B.20,27E.20 248B=1F9C.20,27E.20 248C=1F9D.20,27E.20 248D=1F9E.20,27E.20",
    "248E=1F9F.20,27E.20 248F=1FA0.20,27E.20 2490=1FA1.20,27E.20 2491=1F99.20,1F98.20,27E.20",
    "2492=1F99.20,1F99.20,27E.20 2493=1F99.20,1F9A.20,27E.20 2494=1F99.20,1F9B.20,27E.20",
    "2495=1F99.20,1F9C.20,27E.20 2496=1F99.20,1F9D.20,27E.20 2497=1F99.20,1F9E.20,27E.20",
    "2498=1F99.20,1F9F.20,27E.20 2499=1F99.20,1FA0.20,27E.20 249A=1F99.20,1FA1.20,27E.20",
    "249B=1F9A.20,1F98.20,27E.20 249C=328.20,1FA2.20,329.20 249D=328.20,1FBC.20,329.20",
    "249E=328.20,1FD6.20,329.20 249F=328.20,1FEB.20,329.20 24A0=328.20,2007.20,329.20",
    "24A1=328.20,2042.20,329.20 24A2=328.20,2051.20,329.20 24A3=328.20,2075.20,329.20",
    "24A4=328.20,2090.20,329.20 24A5=328.20,20AB.20,329.20 24A6=328.20,20C4.20,329.20",
    "24A7=328.20,20D6.20,329.20 24A8=328.20,2109.20,329.20 24A9=328.20,2118.20,329.20",
    "24AA=328.20,213C.20,329.20 24AB=328.20,216B.20,329.20 24AC=328.20,2180.20,329.20",
    "24AD=328.20,2193.20,329.20 24AE=328.20,21D2.20,329.20 24AF=328.20,21F7.20,329.20",
    "24B0=328.20,2217.20,329.20 24B1=328.20,2247.20,329.20 24B2=328.20,2259.20,329.20",
    "24B3=328.20,2264.20,329.20 24B4=328.20,2270.20,329.20 24B5=328.20,2286.20,329.20",
    "24B6=1FA2.20 24B7=1FBC.20 24B8=1FD6.20 24B9=1FEB.20 24BA=2007.20 24BB=2042.20",
    "24BC=2051.20 24BD=2075.20 24BE=2090.20 24BF=20AB.20 24C0=20C4.20 24C1=20D6.20",
    "24C2=2109.20 24C3=2118.20 24C4=213C.20 24C5=216B.20 24C6=2180.20 24C7=2193.20",
    "24C8=21D2.20 24C9=21F7.20 24CA=2217.20 24CB=2247.20 24CC=2259.20 24CD=2264.20",
    "24CE=2270.20 24CF=2286.20 24D0=1FA2.20 24D1=1FBC.20 24D2=1FD6.20 24D3=1FEB.20",
    "24D4=2007.20 24D5=2042.20 24D6=2051.20 24D7=2075.20 24D8=2090.20 24D9=20AB.20",
    "24DA=20C4.20 24DB=20D6.20 24DC=2109.20 24DD=2118.20 24DE=213C.20 24DF=216B.20",
    "24E0=2180.20 24E1=2193.20 24E2=21D2.20 24E3=21F7.20 24E4=2217.20 24E5=2247.20",
    "24E6=2259.20 24E7=2264.20 24E8=2270.20 24E9=2286.20 24EA=1F98.20 24EB=1F99.20,1F99.20",
    "24EC=1F99.20,1F9A.20 24ED=1F99.20,1F9B.20 24EE=1F99.20,1F9C.20 24EF=1F99.20,1F9D.20",
    "24F0=1F99.20,1F9E.20 24F1=1F99.20,1F9F.20 24F2=1F99.20,1FA0.20 24F3=1F99.20,1FA1.20",
    "24F4=1F9A.20,1F98.20 24F5-24FD=1F99.20 24FE=1F99.20,1F98.20 24FF=1F98.20",
    "2500-25FF=869.20 2600-262F=A33.20 2630-2637=FEE.20 2638-266C=A63.20 266D-266F=1241.20",
    "2670-2689=A98.20 268A-268F=FE8.20 2690-26FF=AB2.20 2701-2720=B3D.20 2721-2767=B5F.20",
    "2768-2775=35E.20 2776-277E=1F99.20 277F=1F99.20,1F98.20 2780-2788=1F99.20",
    "2789=1F99.20,1F98.20 278A-2792=1F99.20 2793=1F99.20,1F98.20 2794-27C4=BA6.20",
    "27C5-27C6=352.20 27C7-27E5=BD7.20 27E6-27EF=354.20 27F0-27FF=BF6.20 2800-28FF=EE8.20",
    "2900-2982=C06.20 2983-2998=33C.20 2999-29D7=C89.20 29D8-29DB=396.20 29DC-29FB=CC8.20",
    "29FC-29FD=33A.20 29FE-2A0B=CE8.20 2A0C=68C.20,68C.20,68C.20,68C.20 2A0D-2A73=CF6.20",
    "2A74=240.20,240.20,66B.20 2A75=66B.20,66B.20 2A76=66B.20,66B.20,66B.20 2A77-2ADB=D5D.20",
    "2ADC=DC2.20,0.2F 2ADD-2B4C=DC2.20 2B50-2B59=E35.20 2C00-2C2E=254A.20 2C30-2C5E=254A.20",
    "2C60=20E5.20 2C61-2C62=20E5.20 2C63=2170.20 2C64=21B7.20 2C65=1FA7.20 2C66=2200.20",
    "2C67=2086.20 2C68=2086.20 2C69=20CE.20 2C6A=20CE.20 2C6B=22A1.20 2C6C=22A1.20",
    "2C6D=1FB1.20 2C6E=2110.20 2C6F=1FAD.20 2C70=1FB7.20 2C71=2252.20 2C72=225F.20",
    "2C73=225F.20 2C74=2253.20 2C75=2087.20 2C76=2087.20 2C77=217F.20 2C78=2014.20",
    "2C79=21B2.20 2C7A=215B.20 2C7B=2019.20 2C7C=20AB.20 2C7D=2247.20 2C7E=21DE.20",
    "2C7F=229D.20 2C80=234B.20 2C81-2C82=234B.20 2C83-2C84=234C.20 2C85-2C86=234D.20",
    "2C87-2C88=234E.20 2C89=234F.20 2C8A=2351.20 2C8B-2C8C=2351.20 2C8D-2C8E=2352.20",
    "2C8F-2C90=2353.20 2C91-2C92=2354.20 2C93-2C94=2355.20 2C95=2356.20 2C96=2358.20",
    "2C97-2C98=2358.20 2C99-2C9A=2359.20 2C9B=235A.20 2C9C=235D.20 2C9D-2C9E=235D.20",
    "2C9F-2CA0=235E.20 2CA1-2CA2=235F.20 2CA3-2CA4=2360.20 2CA5-2CA6=2361.20",
    "2CA7-2CA8=2362.20 2CA9-2CAA=2363.20 2CAB-2CAC=2364.20 2CAD-2CAE=2365.20",
    "2CAF-2CB0=2366.20 2CB1=2367.20 2CB2=2382.20 2CB3-2CB4=2382.20 2CB5=2383.20 2CB6=2350.20",
    "2CB7=2350.20 2CB8=2357.20 2CB9=2357.20 2CBA=235B.20 2CBB-2CBC=235B.20 2CBD=235C.20",
    "2CBE=2368.20 2CBF-2CC0=2368.20 2CC1=2369.20 2CC2=236C.20 2CC3-2CC4=236C.20",
    "2CC5-2CC6=236D.20 2CC7=236E.20 2CC8=2372.20 2CC9=2372.20 2CCA=2374.20 2CCB-2CCC=2374.20",
    "2CCD-2CCE=2375.20 2CCF-2CD0=2376.20 2CD1-2CD2=2377.20 2CD3-2CD4=2378.20 2CD5=2379.20",
    "2CD6=237C.20 2CD7=237C.20 2CD8=237E.20 2CD9-2CDA=237E.20 2CDB-2CDC=237F.20 2CDD=2380.20",
    "2CDE=2384.20 2CDF-2CE0=2384.20 2CE1-2CE2=2385.20 2CE3=2386.20",
    "2CE4=2356.20,234B.20,2355.20 2CE5-2CEA=EE2.20 2CEB=236B.20 2CEC=236B.20 2CED=237B.20",
    "2CEE=237B.20 2CEF=0.33 2CF0=0.23 2CF1=0.22 2CF2=2371.20 2CF3=2371.20 2CF9=288.20",
    "2CFA-2CFB=275.20 2CFC=307.20 2CFD=1DB7.20 2CFE=289.20 2CFF=308.20 2D00=25A0.20",
    "2D01=25A2.20 2D02=25A4.20 2D03=25A6.20 2D04=25A8.20 2D05=25AA.20 2D06=25AC.20",
    "2D07=25B0.20 2D08=25B2.20 2D09=25B4.20 2D0A=25B6.20 2D0B=25B8.20 2D0C=25BA.20",
    "2D0D=25BE.20 2D0E=25C0.20 2D0F=25C2.20 2D10=25C4.20 2D11=25C6.20 2D12=25C8.20",
    "2D13=25CC.20 2D14=25CE.20 2D15=25D0.20 2D16=25D2.20 2D17=25D4.20 2D18=25D6.20",
    "2D19=25D8.20 2D1A=25DA.20 2D1B=25DC.20 2D1C=25DE.20 2D1D=25E0.20 2D1E=25E2.20",
    "2D1F=25E6.20 2D20=25E8.20 2D21=25AE.20 2D22=25BC.20 2D23=25CA.20 2D24=25E4.20",
    "2D25=25EA.20 2D27=25ED.20 2D2D=25F2.20 2D30-2D3B=27D9.20 2D3C-2D53=27E6.20",
    "2D54-2D65=27FF.20 2D66=27E5.20 2D67=27FE.20 2D6F=2811.20 2D70=453.20 2D7F= 2D80=2822.20",
    "2D81=2837.20 2D82=2848.20 2D83=2851.20 2D84=2860.20 2D85=2886.20 2D86=2897.20",
    "2D87=28A0.20 2D88=28B6.20 2D89=28BF.20 2D8A=28C8.20 2D8B=28F9.20 2D8C=2918.20",
    "2D8D=2927.20 2D8E=2930.20 2D8F=2952.20 2D90=295B.20 2D91=296B.20 2D92=299B.20",
    "2D93-2D96=2946.20 2DA0-2DA6=299F.20 2DA8-2DAE=29A6.20 2DB0-2DB6=29AD.20",
    "2DB8-2DBE=29B4.20 2DC0-2DC6=29BB.20 2DC8-2DCE=29C2.20 2DD0-2DD6=29C9.20",
    "2DD8-2DDE=29D0.20 2DE0=2393.20 2DE1=2397.20 2DE2=239B.20 2DE3=23AF.20 2DE4=23C7.20",
    "2DE5=23D1.20 2DE6=23FB.20 2DE7=2415.20 2DE8=2428.20 2DE9=2431.20 2DEA=244C.20",
    "2DEB=2454.20 2DEC=2461.20 2DED=246A.20 2DEE=2473.20 2DEF=2497.20 2DF0=24BE.20",
    "2DF1=24C9.20 2DF2=24E8.20 2DF3=24ED.20 2DF4=2538.20 2DF5=246A.20,2473.20 2DF6=2387.20",
    "2DF7=23BF.20 2DF8=23FA.20 2DF9=248E.20 2DFA=2505.20 2DFB=250E.20 2DFC=2513.20",
    "2DFD=251D.20 2DFE=2522.20 2DFF=252C.20 2E00-2E01=3CB.20 2E02-2E05=36C.20",
    "2E06-2E08=3CD.20 2E09-2E0A=370.20 2E0B=3D0.20 2E0C-2E0D=372.20 2E0E-2E16=3D1.20",
    "2E17=21C.20 2E18=27D.20 2E19=309.20 2E1A-2E1B=3DA.20 2E1C-2E1D=374.20 2E1E-2E1F=3DC.20",
    "2E20-2E29=376.20 2E2A-2E2D=302.20 2E2E=26F.20 2E2F=24F2.20 2E30=28A.20 2E31=294.20",
    "2E32=225.20 2E33=295.20 2E34=224.20 2E35=23D.20 2E36-2E38=3B5.20 2E39=39B.20",
    "2E3A-2E3B=218.20 2E80=14E36.20,0.118 2E81=15382.20,0.118 2E82=14E5B.20 2E83=14E5A.20",
    "2E84=14E59.20,0.118 2E85=14EBB.20 2E86=15182.20,0.118 2E87=151E0.20,0.118",
    "2E88=15200.20,0.118 2E89=15202.20 2E8A=1535C.20,0.118 2E8B=15369.20,0.118",
    "2E8C=15C0F.20,0.118 2E8D=15C0F.20,0.119 2E8E=15C22.20,0.118 2E8F=15C23.20 2E90=15C22.20",
    "2E91=15C23.20,0.118 2E92=15DF3.20 2E93=15E7A.20 2E94=15F51.20 2E95=15F50.20,0.118",
    "2E96=15FC4.20 2E97=15FC3.20,0.118 2E98=1624C.20 2E99=16535.20 2E9B=165E1.20",
    "2E9C=165E5.20,0.118 2E9D=16708.20,0.118 2E9E=16B7A.20,0.118 2E9F=16BCD.20 2EA0=16C11.20",
    "2EA1=16C35.20 2EA2=16C3A.20 2EA3=1706C.20 2EA4=1722B.20 2EA5=1722B.20,0.118",
    "2EA6=14E2C.20 2EA7=1725B.20,0.118 2EA8=172AD.20 2EA9=1738B.20,0.118 2EAA=1758B.20,0.118",
    "2EAB=176EE.20,0.118 2EAC=1793A.20,0.118 2EAD=1793B.20 2EAE=17AF9.20,0.118 2EAF=17CF9.20",
    "2EB0=17E9F.20 2EB1=17F53.20 2EB2=17F52.20 2EB3=17F53.20,0.118 2EB4=17F53.20,0.119",
    "2EB5=17F52.20,0.118 2EB6=17F8A.20,0.118 2EB7=17F8A.20,0.119 2EB8=17F8B.20 2EB9=18002.20",
    "2EBA=18080.20 2EBB=1807F.20,0.118 2EBC=18089.20,0.118 2EBD=181FC.20,0.118 2EBE=18279.20",
    "2EBF=18279.20,0.118 2EC0=18279.20,0.119 2EC1=1864E.20 2EC2=18864.20 2EC3=18980.20",
    "2EC4=1897F.20 2EC5=189C1.20 2EC6=189D2.20 2EC7=189D2.20,0.118 2EC8=18BA0.20",
    "2EC9=18D1D.20 2ECA=18DB3.20,0.118 2ECB=18F66.20 2ECC=18FB6.20 2ECD=18FB6.20,0.118",
    "2ECE=18FB6.20,0.119 2ECF=19091.20,0.118 2ED0=19485.20 2ED1-2ED2=19577.20 2ED3=1957F.20",
    "2ED4=195E8.20 2ED5=1961C.20,0.118 2ED6=1961D.20 2ED7=196E8.20,0.118 2ED8=19752.20",
    "2ED9=197E6.20 2EDA=19875.20 2EDB=198CE.20 2EDC-2EDD=198DE.20 2EDE=198E0.20,0.118",
    "2EDF=198E0.20 2EE0=19963.20 2EE1=19996.20,0.118 2EE2=19A6C.20 2EE3=19AA8.20,0.118",
    "2EE4=19B3C.20,0.118 2EE5=19C7C.20 2EE6=19E1F.20 2EE7=19E75.20,0.118 2EE8=19EA6.20",
    "2EE9=19EC4.20 2EEA=19EFE.20 2EEB=19F4A.20,0.118 2EEC=19F50.20 2EED=19F52.20,0.118",
    "2EEE=19F7F.20 2EEF=19F8D.20,0.118 2EF0=19F99.20 2EF1=19F9C.20,0.118 2EF2=19F9C.20,0.119",
    "2EF3=19F9F.20 2F00=14E00.20 2F01=14E28.20 2F02=14E36.20 2F03=14E3F.20 2F04=14E59.20",
    "2F05=14E85.20 2F06=14E8C.20 2F07=14EA0.20 2F08=14EBA.20 2F09=1513F.20 2F0A=15165.20",
    "2F0B=1516B.20 2F0C=15182.20 2F0D=15196.20 2F0E=151AB.20 2F0F=151E0.20 2F10=151F5.20",
    "2F11=15200.20 2F12=1529B.20 2F13=152F9.20 2F14=15315.20 2F15=1531A.20 2F16=15338.20",
    "2F17=15341.20 2F18=1535C.20 2F19=15369.20 2F1A=15382.20 2F1B=153B6.20 2F1C=153C8.20",
    "2F1D=153E3.20 2F1E=156D7.20 2F1F=1571F.20 2F20=158EB.20 2F21=15902.20 2F22=1590A.20",
    "2F23=15915.20 2F24=15927.20 2F25=15973.20 2F26=15B50.20 2F27=15B80.20 2F28=15BF8.20",
    "2F29=15C0F.20 2F2A=15C22.20 2F2B=15C38.20 2F2C=15C6E.20 2F2D=15C71.20 2F2E=15DDB.20",
    "2F2F=15DE5.20 2F30=15DF1.20 2F31=15DFE.20 2F32=15E72.20 2F33=15E7A.20 2F34=15E7F.20",
    "2F35=15EF4.20 2F36=15EFE.20 2F37=15F0B.20 2F38=15F13.20 2F39=15F50.20 2F3A=15F61.20",
    "2F3B=15F73.20 2F3C=15FC3.20 2F3D=16208.20 2F3E=16236.20 2F3F=1624B.20 2F40=1652F.20",
    "2F41=16534.20 2F42=16587.20 2F43=16597.20 2F44=165A4.20 2F45=165B9.20 2F46=165E0.20",
    "2F47=165E5.20 2F48=166F0.20 2F49=16708.20 2F4A=16728.20 2F4B=16B20.20 2F4C=16B62.20",
    "2F4D=16B79.20 2F4E=16BB3.20 2F4F=16BCB.20 2F50=16BD4.20 2F51=16BDB.20 2F52=16C0F.20",
    "2F53=16C14.20 2F54=16C34.20 2F55=1706B.20 2F56=1722A.20 2F57=17236.20 2F58=1723B.20",
    "2F59=1723F.20 2F5A=17247.20 2F5B=17259.20 2F5C=1725B.20 2F5D=172AC.20 2F5E=17384.20",
    "2F5F=17389.20 2F60=174DC.20 2F61=174E6.20 2F62=17518.20 2F63=1751F.20 2F64=17528.20",
    "2F65=17530.20 2F66=1758B.20 2F67=17592.20 2F68=17676.20 2F69=1767D.20 2F6A=176AE.20",
    "2F6B=176BF.20 2F6C=176EE.20 2F6D=177DB.20 2F6E=177E2.20 2F6F=177F3.20 2F70=1793A.20",
    "2F71=179B8.20 2F72=179BE.20 2F73=17A74.20 2F74=17ACB.20 2F75=17AF9.20 2F76=17C73.20",
    "2F77=17CF8.20 2F78=17F36.20 2F79=17F51.20 2F7A=17F8A.20 2F7B=17FBD.20 2F7C=18001.20",
    "2F7D=1800C.20 2F7E=18012.20 2F7F=18033.20 2F80=1807F.20 2F81=18089.20 2F82=181E3.20",
    "2F83=181EA.20 2F84=181F3.20 2F85=181FC.20 2F86=1820C.20 2F87=1821B.20 2F88=1821F.20",
    "2F89=1826E.20 2F8A=18272.20 2F8B=18278.20 2F8C=1864D.20 2F8D=1866B.20 2F8E=18840.20",
    "2F8F=1884C.20 2F90=18863.20 2F91=1897E.20 2F92=1898B.20 2F93=189D2.20 2F94=18A00.20",
    "2F95=18C37.20 2F96=18C46.20 2F97=18C55.20 2F98=18C78.20 2F99=18C9D.20 2F9A=18D64.20",
    "2F9B=18D70.20 2F9C=18DB3.20 2F9D=18EAB.20 2F9E=18ECA.20 2F9F=18F9B.20 2FA0=18FB0.20",
    "2FA1=18FB5.20 2FA2=19091.20 2FA3=19149.20 2FA4=191C6.20 2FA5=191CC.20 2FA6=191D1.20",
    "2FA7=19577.20 2FA8=19580.20 2FA9=1961C.20 2FAA=196B6.20 2FAB=196B9.20 2FAC=196E8.20",
    "2FAD=19751.20 2FAE=1975E.20 2FAF=19762.20 2FB0=19769.20 2FB1=197CB.20 2FB2=197ED.20",
    "2FB3=197F3.20 2FB4=19801.20 2FB5=198A8.20 2FB6=198DB.20 2FB7=198DF.20 2FB8=19996.20",
    "2FB9=19999.20 2FBA=199AC.20 2FBB=19AA8.20 2FBC=19AD8.20 2FBD=19ADF.20 2FBE=19B25.20",
    "2FBF=19B2F.20 2FC0=19B32.20 2FC1=19B3C.20 2FC2=19B5A.20 2FC3=19CE5.20 2FC4=19E75.20",
    "2FC5=19E7F.20 2FC6=19EA5.20 2FC7=19EBB.20 2FC8=19EC3.20 2FC9=19ECD.20 2FCA=19ED1.20",
    "2FCB=19EF9.20 2FCC=19EFD.20 2FCD=19F0E.20 2FCE=19F13.20 2FCF=19F20.20 2FD0=19F3B.20",
    "2FD1=19F4A.20 2FD2=19F52.20 2FD3=19F8D.20 2FD4=19F9C.20 2FD5=19FA0.20 2FF0-2FFB=1D1B.20",
    "3000=209.20 3001=236.20 3002=292.20 3003=3C1.20 3004=1D4B.20 3005=1F57.20",
    "3006=42E6.20,42FC.20 3007=1F98.20 3008-3011=380.20 3012-3013=1D4C.20 3014-301B=38A.20",
    "301C=21E.20 301D-301F=323.20 3020=1D4E.20 3021-3029=1F99.20 302A=0.101 302B=0.102",
    "302C=0.103 302D=0.104 302E=0.105 302F=0.106 3030=21F.20 3031=1F5C.20 3032=1F5C.20,0.37",
    "3033=1F5D.20 3034=1F5D.20,0.37 3035=1F5E.20 3036=1D4C.20 3037=1D4F.20 3038=15341.20",
    "3039-303A=15344.20 303B=1F58.20 303C=42F9.20,42E7.20 303D=3C2.20 303E-303F=1D50.20",
    "3041=42DA.20 3042-3043=42DA.20 3044-3045=42DB.20 3046=42DC.20 3047=42DE.20",
    "3048-3049=42DE.20 304A-304B=42DF.20 304C=42E0.20,0.37 304D=42E1.20 304E=42E1.20,0.37",
    "304F=42E2.20 3050=42E2.20,0.37 3051=42E3.20 3052=42E3.20,0.37 3053=42E4.20",
    "3054=42E4.20,0.37 3055=42E5.20 3056=42E5.20,0.37 3057=42E6.20 3058=42E6.20,0.37",
    "3059=42E7.20 305A=42E7.20,0.37 305B=42E8.20 305C=42E8.20,0.37 305D=42E9.20",
    "305E=42E9.20,0.37 305F=42EA.20 3060=42EA.20,0.37 3061=42EB.20 3062=42EB.20,0.37",
    "3063=42EC.20 3064=42EC.20 3065=42EC.20,0.37 3066=42ED.20 3067=42ED.20,0.37 3068=42EE.20",
    "3069=42EE.20,0.37 306A-306F=42EF.20 3070=42F4.20,0.37 3071=42F4.20,0.38 3072=42F5.20",
    "3073=42F5.20,0.37 3074=42F5.20,0.38 3075=42F6.20 3076=42F6.20,0.37 3077=42F6.20,0.38",
    "3078=42F7.20 3079=42F7.20,0.37 307A=42F7.20,0.38 307B=42F8.20 307C=42F8.20,0.37",
    "307D=42F8.20,0.38 307E-3083=42F9.20 3084-3085=42FE.20 3086-3087=42FF.20",
    "3088-308E=4300.20 308F-3093=4306.20 3094=42DC.20,0.37 3095=42E0.20 3096=42E3.20",
    "3099=0.37 309A=0.38 309B-309C=4C3.20 309D=1F5F.20 309E=1F5F.20,0.37",
    "309F=4300.20,4302.20 30A0=220.20 30A1=42DA.20 30A2-30A3=42DA.20 30A4-30A5=42DB.20",
    "30A6=42DC.20 30A7=42DE.20 30A8-30A9=42DE.20 30AA-30AB=42DF.20 30AC=42E0.20,0.37",
    "30AD=42E1.20 30AE=42E1.20,0.37 30AF=42E2.20 30B0=42E2.20,0.37 30B1=42E3.20",
    "30B2=42E3.20,0.37 30B3=42E4.20 30B4=42E4.20,0.37 30B5=42E5.20 30B6=42E5.20,0.37",
    "30B7=42E6.20 30B8=42E6.20,0.37 30B9=42E7.20 30BA=42E7.20,0.37 30BB=42E8.20",
    "30BC=42E8.20,0.37 30BD=42E9.20 30BE=42E9.20,0.37 30BF=42EA.20 30C0=42EA.20,0.37",
    "30C1=42EB.20 30C2=42EB.20,0.37 30C3=42EC.20 30C4=42EC.20 30C5=42EC.20,0.37 30C6=42ED.20",
    "30C7=42ED.20,0.37 30C8=42EE.20 30C9=42EE.20,0.37 30CA-30CF=42EF.20 30D0=42F4.20,0.37",
    "30D1=42F4.20,0.38 30D2=42F5.20 30D3=42F5.20,0.37 30D4=42F5.20,0.38 30D5=42F6.20",
    "30D6=42F6.20,0.37 30D7=42F6.20,0.38 30D8=42F7.20 30D9=42F7.20,0.37 30DA=42F7.20,0.38",
    "30DB=42F8.20 30DC=42F8.20,0.37 30DD=42F8.20,0.38 30DE-30E3=42F9.20 30E4-30E5=42FE.20",
    "30E6-30E7=42FF.20 30E8-30EE=4300.20 30EF-30F3=4306.20 30F4=42DC.20,0.37 30F5=42E0.20",
    "30F6=42E3.20 30F7=4306.20,0.37 30F8=4307.20,0.37 30F9=4308.20,0.37 30FA=4309.20,0.37",
    "30FB=221.20 30FC-30FD=1F60.20 30FE=1F61.20,0.37 30FF=42E4.20,42EE.20 3105-3107=4429.20",
    "3108=442D.20 3109-310B=442F.20 310C-310E=4433.20 310F-3112=4438.20 3113-3119=443F.20",
    "311A-311B=4449.20 311C-311D=444C.20 311E-3124=444F.20 3125=4457.20 3126-3129=445A.20",
    "312A=442E.20 312B=4436.20 312C=443C.20 312D=445E.20 3131-3132=4175.20 3133=4253.20",
    "3134=4177.20 3135-3136=4255.20 3137-3139=4178.20 313A-313F=4259.20 3140=418F.20",
    "3141-3143=417B.20 3144=4196.20 3145-314E=417E.20 314F-3163=41F3.20 3164=41F2.20",
    "3165-3166=4189.20 3167-3168=4270.20 3169=4275.20 316A=4277.20 316B=427C.20 316C=4280.20",
    "316D=4282.20 316E=4191.20 316F=4286.20 3170=4288.20 3171-3172=4192.20 3173=4195.20",
    "3174-3175=4197.20 3176=419C.20 3177=419E.20 3178-317C=41A0.20 317D=41A7.20 317E=41AB.20",
    "317F=41B5.20 3180=41BC.20 3181=41C1.20 3182-3183=429A.20 3184-3186=41CC.20",
    "3187-3188=4216.20 3189=421A.20 318A-318B=4223.20 318C=4226.20 318D=4230.20 318E=4233.20",
    "3190-3191=1D52.20 3192=14E00.20 3193=14E8C.20 3194=14E09.20 3195=156DB.20 3196=14E0A.20",
    "3197=14E2D.20 3198=14E0B.20 3199=17532.20 319A=14E59.20 319B=14E19.20 319C=14E01.20",
    "319D=15929.20 319E=15730.20 319F=14EBA.20 31A0=4429.20,0.119 31A1=4443.20,0.119",
    "31A2=4439.20,0.119 31A3=4434.20,0.119 31A4=444E.20 31A5=444E.20,0.119 31A6=444B.20",
    "31A7=444A.20,0.119 31A8=445C.20,0.11A 31A9=4449.20,0.119 31AA=445B.20,0.119",
    "31AB=445C.20,0.119 31AC=442C.20 31AD=4437.20 31AE=444F.20,0.119 31AF=4451.20,0.119",
    "31B0-31B1=4458.20 31B2=4456.20 31B3=445B.20,0.119 31B4=442A.20 31B5=4430.20",
    "31B6=4435.20 31B7=4438.20 31B8-31BA=4446.20 31C0-31E3=1D27.20 31F0=42E2.20",
    "31F1-31F2=42E6.20 31F3=42EE.20 31F4=42F1.20 31F5-31F9=42F4.20 31FA=42FB.20",
    "31FB-31FF=4301.20 3200=328.20,4175.20,329.20 3201=328.20,4177.20,329.20",
    "3202=328.20,4178.20,329.20 3203=328.20,417A.20,329.20 3204=328.20,417B.20,329.20",
    "3205=328.20,417C.20,329.20 3206=328.20,417E.20,329.20 3207=328.20,4180.20,329.20",
    "3208=328.20,4181.20,329.20 3209=328.20,4183.20,329.20 320A=328.20,4184.20,329.20",
    "320B=328.20,4185.20,329.20 320C=328.20,4186.20,329.20 320D=328.20,4187.20,329.20",
    "320E=328.20,4175.20,41F3.20,329.20 320F=328.20,4177.20,41F3.20,329.20",
    "3210=328.20,4178.20,41F3.20,329.20 3211=328.20,417A.20,41F3.20,329.20",
    "3212=328.20,417B.20,41F3.20,329.20 3213=328.20,417C.20,41F3.20,329.20",
    "3214=328.20,417E.20,41F3.20,329.20 3215=328.20,4180.20,41F3.20,329.20",
    "3216=328.20,4181.20,41F3.20,329.20 3217=328.20,4183.20,41F3.20,329.20",
    "3218=328.20,4184.20,41F3.20,329.20 3219=328.20,4185.20,41F3.20,329.20",
    "321A=328.20,4186.20,41F3.20,329.20 321B=328.20,4187.20,41F3.20,329.20",
    "321C=328.20,4181.20,4200.20,329.20",
    "321D=328.20,4180.20,41FB.20,4181.20,41F7.20,4254.20,329.20",
    "321E=328.20,4180.20,41FB.20,4187.20,4200.20,329.20 3220=328.20,14E00.20,329.20",
    "3221=328.20,14E8C.20,329.20 3222=328.20,14E09.20,329.20 3223=328.20,156DB.20,329.20",
    "3224=328.20,14E94.20,329.20 3225=328.20,1516D.20,329.20 3226=328.20,14E03.20,329.20",
    "3227=328.20,1516B.20,329.20 3228=328.20,14E5D.20,329.20 3229=328.20,15341.20,329.20",
    "322A=328.20,16708.20,329.20 322B=328.20,1706B.20,329.20 322C=328.20,16C34.20,329.20",
    "322D=328.20,16728.20,329.20 322E=328.20,191D1.20,329.20 322F=328.20,1571F.20,329.20",
    "3230=328.20,165E5.20,329.20 3231=328.20,1682A.20,329.20 3232=328.20,16709.20,329.20",
    "3233=328.20,1793E.20,329.20 3234=328.20,1540D.20,329.20 3235=328.20,17279.20,329.20",
    "3236=328.20,18CA1.20,329.20 3237=328.20,1795D.20,329.20 3238=328.20,152B4.20,329.20",
    "3239=328.20,14EE3.20,329.20 323A=328.20,1547C.20,329.20 323B=328.20,15B66.20,329.20",
    "323C=328.20,176E3.20,329.20 323D=328.20,14F01.20,329.20 323E=328.20,18CC7.20,329.20",
    "323F=328.20,15354.20,329.20 3240=328.20,1796D.20,329.20 3241=328.20,14F11.20,329.20",
    "3242=328.20,181EA.20,329.20 3243=328.20,181F3.20,329.20 3244=1554F.20 3245=15E7C.20",
    "3246=16587.20 3247=17B8F.20 3248=1F99.20,1F98.20 3249=1F9A.20,1F98.20",
    "324A=1F9B.20,1F98.20 324B=1F9C.20,1F98.20 324C=1F9D.20,1F98.20 324D=1F9E.20,1F98.20",
    "324E=1F9F.20,1F98.20 324F=1FA0.20,1F98.20 3250=216B.20,21F7.20,2007.20",
    "3251=1F9A.20,1F99.20 3252=1F9A.20,1F9A.20 3253=1F9A.20,1F9B.20 3254=1F9A.20,1F9C.20",
    "3255=1F9A.20,1F9D.20 3256=1F9A.20,1F9E.20 3257=1F9A.20,1F9F.20 3258=1F9A.20,1FA0.20",
    "3259=1F9A.20,1FA1.20 325A=1F9B.20,1F98.20 325B=1F9B.20,1F99.20 325C=1F9B.20,1F9A.20",
    "325D=1F9B.20,1F9B.20 325E=1F9B.20,1F9C.20 325F=1F9B.20,1F9D.20 3260=4175.20",
    "3261-3262=4177.20 3263-3265=417A.20 3266=417E.20 3267-3268=4180.20 3269-326D=4183.20",
    "326E=4175.20,41F3.20 326F=4177.20,41F3.20 3270=4178.20,41F3.20 3271=417A.20,41F3.20",
    "3272=417B.20,41F3.20 3273=417C.20,41F3.20 3274=417E.20,41F3.20 3275=4180.20,41F3.20",
    "3276=4181.20,41F3.20 3277=4183.20,41F3.20 3278=4184.20,41F3.20 3279=4185.20,41F3.20",
    "327A=4186.20,41F3.20 327B=4187.20,41F3.20 327C=4183.20,41F3.20,4260.20,4175.20,41FB.20",
    "327D=4181.20,4200.20,4180.20,4206.20 327E=4180.20,4200.20 327F=1D54.20 3280=14E00.20",
    "3281=14E8C.20 3282=14E09.20 3283=156DB.20 3284=14E94.20 3285=1516D.20 3286=14E03.20",
    "3287=1516B.20 3288=14E5D.20 3289=15341.20 328A=16708.20 328B=1706B.20 328C=16C34.20",
    "328D=16728.20 328E=191D1.20 328F=1571F.20 3290=165E5.20 3291=1682A.20 3292=16709.20",
    "3293=1793E.20 3294=1540D.20 3295=17279.20 3296=18CA1.20 3297=1795D.20 3298=152B4.20",
    "3299=179D8.20 329A=17537.20 329B=15973.20 329C=19069.20 329D=1512A.20 329E=15370.20",
    "329F=16CE8.20 32A0=19805.20 32A1=14F11.20 32A2=15199.20 32A3=16B63.20 32A4=14E0A.20",
    "32A5=14E2D.20 32A6=14E0B.20 32A7=15DE6.20 32A8=153F3.20 32A9=1533B.20 32AA=15B97.20",
    "32AB=15B66.20 32AC=176E3.20 32AD=14F01.20 32AE=18CC7.20 32AF=15354.20 32B0=1591C.20",
    "32B1=1F9B.20,1F9E.20 32B2=1F9B.20,1F9F.20 32B3=1F9B.20,1FA0.20 32B4=1F9B.20,1FA1.20",
    "32B5=1F9C.20,1F98.20 32B6=1F9C.20,1F99.20 32B7=1F9C.20,1F9A.20 32B8=1F9C.20,1F9B.20",
    "32B9=1F9C.20,1F9C.20 32BA=1F9C.20,1F9D.20 32BB=1F9C.20,1F9E.20 32BC=1F9C.20,1F9F.20",
    "32BD=1F9C.20,1FA0.20 32BE=1F9C.20,1FA1.20 32BF=1F9D.20,1F98.20 32C0=1F99.20,16708.20",
    "32C1=1F9A.20,16708.20 32C2=1F9B.20,16708.20 32C3=1F9C.20,16708.20 32C4=1F9D.20,16708.20",
    "32C5=1F9E.20,16708.20 32C6=1F9F.20,16708.20 32C7=1FA0.20,16708.20 32C8=1FA1.20,16708.20",
    "32C9=1F99.20,1F98.20,16708.20 32CA=1F99.20,1F99.20,16708.20",
    "32CB=1F99.20,1F9A.20,16708.20 32CC=2075.20,2051.20 32CD=2007.20,2193.20,2051.20",
    "32CE=2007.20,2247.20 32CF=20D6.20,21F7.20,1FEB.20 32D0-32D2=42DA.20 32D3-32FE=42DE.20",
    "3300=42DA.20,42F4.20,0.38,1F60.20,42EE.20 3301=42DA.20,4303.20,42F6.20,42DA.20",
    "3302=42DA.20,430A.20,42F7.20,0.38,42DA.20 3303=42DA.20,1F60.20,4303.20",
    "3304=42DB.20,42F0.20,430A.20,42E2.20,0.37 3305=42DB.20,430A.20,42EB.20",
    "3306=42DC.20,42DF.20,430A.20 3307=42DE.20,42E7.20,42E2.20,1F60.20,42EE.20,0.37",
    "3308=42DE.20,1F60.20,42E0.20,1F60.20 3309=42DF.20,430A.20,42E7.20",
    "330A=42DF.20,1F60.20,42FB.20 330B=42E0.20,42DB.20,4302.20",
    "330C=42E0.20,4301.20,42EC.20,42EE.20 330D=42E0.20,4305.20,4302.20,1F60.20",
    "330E=42E0.20,0.37,4305.20,430A.20 330F=42E0.20,0.37,430A.20,42F9.20",
    "3310=42E1.20,0.37,42E0.20,0.37 3311=42E1.20,0.37,42F0.20,1F60.20",
    "3312=42E1.20,42FF.20,4302.20,1F60.20 3313=42E1.20,0.37,4303.20,42EA.20,0.37,1F60.20",
    "3314=42E1.20,4305.20 3315=42E1.20,4305.20,42E2.20,0.37,4301.20,42FB.20",
    "3316=42E1.20,4305.20,42FC.20,1F60.20,42EE.20,4303.20",
    "3317=42E1.20,4305.20,4306.20,42EC.20,42EE.20 3318=42E2.20,0.37,4301.20,42FB.20",
    "3319=42E2.20,0.37,4301.20,42FB.20,42EE.20,430A.20",
    "331A=42E2.20,4303.20,42E8.20,0.37,42DB.20,4305.20 331B=42E2.20,4305.20,1F60.20,42F2.20",
    "331C=42E3.20,1F60.20,42E7.20 331D=42E4.20,4303.20,42EF.20",
    "331E=42E4.20,1F60.20,42F8.20,0.38 331F=42E5.20,42DB.20,42E2.20,4303.20",
    "3320=42E5.20,430A.20,42EB.20,1F60.20,42FB.20 3321=42E6.20,4302.20,430A.20,42E2.20,0.37",
    "3322=42E8.20,430A.20,42EB.20 3323=42E8.20,430A.20,42EE.20",
    "3324=42EA.20,0.37,1F60.20,42E7.20 3325=42ED.20,0.37,42E6.20 3326=42EE.20,0.37,4303.20",
    "3327=42EE.20,430A.20 3328=42EF.20,42F3.20 3329=42F3.20,42EC.20,42EE.20",
    "332A=42F4.20,42DB.20,42EC.20 332B=42F4.20,0.38,1F60.20,42E8.20,430A.20,42EE.20",
    "332C=42F4.20,0.38,1F60.20,42EC.20 332D=42F4.20,0.37,1F60.20,4304.20,4303.20",
    "332E=42F5.20,0.38,42DA.20,42E7.20,42EE.20,4303.20 332F=42F5.20,0.38,42E2.20,4303.20",
    "3330=42F5.20,0.38,42E4.20 3331=42F5.20,0.37,4303.20",
    "3332=42F6.20,42DA.20,4301.20,42EC.20,42EE.20,0.37 3333=42F6.20,42DB.20,1F60.20,42EE.20",
    "3334=42F6.20,0.37,42EC.20,42E6.20,42DE.20,4303.20 3335=42F6.20,4301.20,430A.20",
    "3336=42F7.20,42E2.20,42EA.20,1F60.20,4303.20 3337=42F7.20,0.38,42E9.20",
    "3338=42F7.20,0.38,42F0.20,42F5.20 3339=42F7.20,4303.20,42EC.20",
    "333A=42F7.20,0.38,430A.20,42E7.20 333B=42F7.20,0.38,1F60.20,42E6.20,0.37",
    "333C=42F7.20,0.37,1F60.20,42EA.20 333D=42F8.20,0.38,42DB.20,430A.20,42EE.20",
    "333E=42F8.20,0.37,4303.20,42EE.20 333F=42F8.20,430A.20",
    "3340=42F8.20,0.38,430A.20,42EE.20,0.37 3341=42F8.20,1F60.20,4303.20",
    "3342=42F8.20,1F60.20,430A.20 3343=42F9.20,42DB.20,42E2.20,4305.20",
    "3344=42F9.20,42DB.20,4303.20 3345=42F9.20,42EC.20,42F4.20 3346=42F9.20,4303.20,42E2.20",
    "3347=42F9.20,430A.20,42E6.20,4300.20,430A.20 3348=42FA.20,42E2.20,4305.20,430A.20",
    "3349=42FA.20,4302.20 334A=42FA.20,4302.20,42F4.20,0.37,1F60.20,4303.20",
    "334B=42FC.20,42E0.20,0.37 334C=42FC.20,42E0.20,0.37,42EE.20,430A.20",
    "334D=42FC.20,1F60.20,42EE.20,4303.20 334E=42FE.20,1F60.20,42EE.20,0.37",
    "334F=42FE.20,1F60.20,4303.20 3350=42FF.20,42DA.20,430A.20",
    "3351=4302.20,42EC.20,42EE.20,4303.20 3352=4302.20,4301.20",
    "3353=4303.20,42F5.20,0.38,1F60.20 3354=4303.20,1F60.20,42F6.20,0.37,4303.20",
    "3355=4304.20,42FB.20 3356=4304.20,430A.20,42EE.20,42E3.20,0.37,430A.20",
    "3357=4306.20,42EC.20,42EE.20 3358=1F98.20,170B9.20 3359=1F99.20,170B9.20",
    "335A=1F9A.20,170B9.20 335B=1F9B.20,170B9.20 335C=1F9C.20,170B9.20 335D=1F9D.20,170B9.20",
    "335E=1F9E.20,170B9.20 335F=1F9F.20,170B9.20 3360=1FA0.20,170B9.20 3361=1FA1.20,170B9.20",
    "3362=1F99.20,1F98.20,170B9.20 3363=1F99.20,1F99.20,170B9.20",
    "3364=1F99.20,1F9A.20,170B9.20 3365=1F99.20,1F9B.20,170B9.20",
    "3366=1F99.20,1F9C.20,170B9.20 3367=1F99.20,1F9D.20,170B9.20",
    "3368=1F99.20,1F9E.20,170B9.20 3369=1F99.20,1F9F.20,170B9.20",
    "336A=1F99.20,1FA0.20,170B9.20 336B=1F99.20,1FA1.20,170B9.20",
    "336C=1F9A.20,1F98.20,170B9.20 336D=1F9A.20,1F99.20,170B9.20",
    "336E=1F9A.20,1F9A.20,170B9.20 336F=1F9A.20,1F9B.20,170B9.20",
    "3370=1F9A.20,1F9C.20,170B9.20 3371=2075.20,216B.20,1FA2.20 3372=1FEB.20,1FA2.20",
    "3373=1FA2.20,2217.20 3374=1FBC.20,1FA2.20,2193.20 3375=213C.20,2247.20",
    "3376=216B.20,1FD6.20 3377=1FEB.20,2109.20 3378=1FEB.20,2109.20,1F9A.20",
    "3379=1FEB.20,2109.20,1F9B.20 337A=2090.20,2217.20 337B=15E73.20,16210.20",
    "337C=1662D.20,1548C.20 337D=15927.20,16B63.20 337E=1660E.20,16CBB.20",
    "337F=1682A.20,15F0F.20,14F1A.20,1793E.20 3380=216B.20,1FA2.20 3381=2118.20,1FA2.20",
    "3382=2330.20,1FA2.20 3383=2109.20,1FA2.20 3384=20C4.20,1FA2.20 3385=20C4.20,1FBC.20",
    "3386=2109.20,1FBC.20 3387=2051.20,1FBC.20 3388=1FD6.20,1FA2.20,20D6.20",
    "3389=20C4.20,1FD6.20,1FA2.20,20D6.20 338A=216B.20,2042.20 338B=2118.20,2042.20",
    "338C=2330.20,2042.20 338D=2330.20,2051.20 338E=2109.20,2051.20 338F=20C4.20,2051.20",
    "3390=2075.20,2286.20 3391=20C4.20,2075.20,2286.20 3392=2109.20,2075.20,2286.20",
    "3393=2051.20,2075.20,2286.20 3394=21F7.20,2075.20,2286.20 3395=2330.20,20D6.20",
    "3396=2109.20,20D6.20 3397=1FEB.20,20D6.20 3398=20C4.20,20D6.20 3399=2042.20,2109.20",
    "339A=2118.20,2109.20 339B=2330.20,2109.20 339C=2109.20,2109.20 339D=1FD6.20,2109.20",
    "339E=20C4.20,2109.20 339F=2109.20,2109.20,1F9A.20 33A0=1FD6.20,2109.20,1F9A.20",
    "33A1=2109.20,1F9A.20 33A2=20C4.20,2109.20,1F9A.20 33A3=2109.20,2109.20,1F9B.20",
    "33A4=1FD6.20,2109.20,1F9B.20 33A5=2109.20,1F9B.20 33A6=20C4.20,2109.20,1F9B.20",
    "33A7=2109.20,675.20,21D2.20 33A8=2109.20,675.20,21D2.20,1F9A.20 33A9=216B.20,1FA2.20",
    "33AA=20C4.20,216B.20,1FA2.20 33AB=2109.20,216B.20,1FA2.20 33AC=2051.20,216B.20,1FA2.20",
    "33AD=2193.20,1FA2.20,1FEB.20 33AE=2193.20,1FA2.20,1FEB.20,675.20,21D2.20",
    "33AF=2193.20,1FA2.20,1FEB.20,675.20,21D2.20,1F9A.20 33B0=216B.20,21D2.20",
    "33B1=2118.20,21D2.20 33B2=2330.20,21D2.20 33B3=2109.20,21D2.20 33B4=216B.20,2247.20",
    "33B5=2118.20,2247.20 33B6=2330.20,2247.20 33B7=2109.20,2247.20 33B8=20C4.20,2247.20",
    "33B9=2109.20,2247.20 33BA=216B.20,2259.20 33BB=2118.20,2259.20 33BC=2330.20,2259.20",
    "33BD=2109.20,2259.20 33BE=20C4.20,2259.20 33BF=2109.20,2259.20 33C0=20C4.20,2346.20",
    "33C1=2109.20,2346.20 33C2=1FA2.20,27E.20,2109.20,27E.20 33C3=1FBC.20,2180.20",
    "33C4=1FD6.20,1FD6.20 33C5=1FD6.20,1FEB.20 33C6=1FD6.20,675.20,20C4.20,2051.20",
    "33C7=1FD6.20,213C.20,27E.20 33C8=1FEB.20,1FBC.20 33C9=2051.20,2270.20",
    "33CA=2075.20,1FA2.20 33CB=2075.20,216B.20 33CC=2090.20,2118.20 33CD=20C4.20,20C4.20",
    "33CE=20C4.20,2109.20 33CF=20C4.20,21F7.20 33D0=20D6.20,2109.20 33D1=20D6.20,2118.20",
    "33D2=20D6.20,213C.20,2051.20 33D3=20D6.20,2264.20 33D4=2109.20,1FBC.20",
    "33D5=2109.20,2090.20,20D6.20 33D6=2109.20,213C.20,20D6.20 33D7=216B.20,2075.20",
    "33D8=216B.20,27E.20,2109.20,27E.20 33D9=216B.20,216B.20,2109.20 33DA=216B.20,2193.20",
    "33DB=21D2.20,2193.20 33DC=21D2.20,2247.20 33DD=2259.20,1FBC.20",
    "33DE=2247.20,675.20,2109.20 33DF=1FA2.20,675.20,2109.20 33E0=1F99.20,165E5.20",
    "33E1=1F9A.20,165E5.20 33E2=1F9B.20,165E5.20 33E3=1F9C.20,165E5.20 33E4=1F9D.20,165E5.20",
    "33E5=1F9E.20,165E5.20 33E6=1F9F.20,165E5.20 33E7=1FA0.20,165E5.20 33E8=1FA1.20,165E5.20",
    "33E9=1F99.20,1F98.20,165E5.20 33EA=1F99.20,1F99.20,165E5.20",
    "33EB=1F99.20,1F9A.20,165E5.20 33EC=1F99.20,1F9B.20,165E5.20",
    "33ED=1F99.20,1F9C.20,165E5.20 33EE=1F99.20,1F9D.20,165E5.20",
    "33EF=1F99.20,1F9E.20,165E5.20 33F0=1F99.20,1F9F.20,165E5.20",
    "33F1=1F99.20,1FA0.20,165E5.20 33F2=1F99.20,1FA1.20,165E5.20",
    "33F3=1F9A.20,1F98.20,165E5.20 33F4=1F9A.20,1F99.20,165E5.20",
    "33F5=1F9A.20,1F9A.20,165E5.20 33F6=1F9A.20,1F9B.20,165E5.20",
    "33F7=1F9A.20,1F9C.20,165E5.20 33F8=1F9A.20,1F9D.20,165E5.20",
    "33F9=1F9A.20,1F9E.20,165E5.20 33FA=1F9A.20,1F9F.20,165E5.20",
    "33FB=1F9A.20,1FA0.20,165E5.20 33FC=1F9A.20,1FA1.20,165E5.20",
    "33FD=1F9B.20,1F98.20,165E5.20 33FE=1F9B.20,1F99.20,165E5.20",
    "33FF=2051.20,1FA2.20,20D6.20 4DC0-4DFF=FF6.20 A000-A48C=4461.20 A490-A4C6=108D.20",
    "A4D0-A4E9=48F4.20 A4EA=4910.20 A4EB=490E.20 A4EC=4911.20 A4ED=490F.20 A4EE-A4F7=4913.20",
    "A4F8-A4FB=48EE.20 A4FC=48F3.20 A4FD=48F2.20 A4FE=232.20 A4FF=28C.20 A500-A60C=3CB9.20",
    "A60D=233.20 A60E=28D.20 A60F=277.20 A610=3D11.20 A611=3D23.20 A612=3D40.20",
    "A613=3CC5.20,3DC4.20 A614=3CD7.20,3DC4.20 A615=3CEC.20,3DC4.20 A616=3D00.20,3DC5.20",
    "A617=3D0B.20,3DC4.20 A618=3D11.20,3DC5.20 A619=3D13.20,3DC5.20 A61A=3D19.20,3DC4.20",
    "A61B=3D3E.20,3DC4.20 A61C=3D6D.20,3DC4.20 A61D=3D84.20,3DC4.20 A61E=3D8A.20,3DC5.20",
    "A61F=3D91.20,3DC4.20 A620-A629=1F98.20 A62A=3D27.20 A62B=3D8A.20 A640=23D5.20",
    "A641=23D5.20 A642=23D8.20 A643=23D8.20 A644=23DD.20 A645=23DD.20 A646=23F1.20",
    "A647=23F1.20 A648=23FA.20 A649=23FA.20 A64A=248E.20 A64B=248E.20 A64C=24B5.20",
    "A64D=24B5.20 A64E=24F1.20 A64F=24F1.20 A650=24F8.20 A651=24F8.20 A652=2509.20",
    "A653=2509.20 A654=2512.20 A655-A656=2512.20 A657=2513.20 A658=2521.20 A659=2521.20",
    "A65A=2526.20 A65B=2526.20 A65C=252B.20 A65D=252B.20 A65E=2540.20 A65F=2540.20",
    "A660=24C2.20 A661=24C2.20 A662=23B9.20 A663=23B9.20 A664=2425.20 A665=2425.20",
    "A666=2430.20 A667=2430.20 A668=244C.20 A669=244C.20 A66A=244C.20 A66B=244C.20",
    "A66C=244C.20 A66D=244C.20 A66E=244C.20 A66F=0.51 A670-A672= A673=3A5.20 A674=23C3.20",
    "A675=23E5.20 A676=23ED.20,0.2B A677=2482.20 A678=24F4.20 A679=24F9.20 A67A=24FD.20",
    "A67B=24AD.20 A67C=0.33 A67D=0.33 A67E=3E3.20 A67F=24F3.20 A680=23B4.20 A681=23B4.20",
    "A682=23E4.20 A683=23E4.20 A684=23CC.20 A685=23CC.20 A686=24DB.20 A687=24DB.20",
    "A688=23E2.20 A689=23E2.20 A68A=247D.20 A68B=247D.20 A68C=2477.20 A68D=2477.20",
    "A68E=24C3.20 A68F=24C3.20 A690=24C8.20 A691=24C8.20 A692=24CE.20 A693=24CE.20",
    "A694=24AC.20 A695=24AC.20 A696=24EC.20 A697=24EC.20 A69F=2519.20 A6A0-A6EF=3DC6.20",
    "A6F0=0.B6 A6F1=0.B7 A6F2=2E0.20 A6F3=28E.20 A6F4=266.20 A6F5=234.20 A6F6=23E.20",
    "A6F7=278.20 A700-A721=504.20 A722=22E6.20 A723=22E6.20 A724=22F1.20 A725=22F1.20",
    "A726=2089.20 A727=2089.20 A728=21F7.20,2286.20 A729=21F7.20,2286.20 A72A=22CB.20",
    "A72B-A72C=22CB.20 A72D-A72E=22CC.20 A72F=22CD.20 A730=2046.20 A731=21D6.20",
    "A732=1FA2.20,1FA2.20 A733=1FA2.20,1FA2.20 A734=1FA2.20,213C.20 A735=1FA2.20,213C.20",
    "A736=1FA2.20,2217.20 A737=1FA2.20,2217.20 A738=1FA2.20,2247.20 A739=1FA2.20,2247.20",
    "A73A=1FA2.20,0.118,2247.20 A73B=1FA2.20,0.118,2247.20 A73C=1FA2.20,2270.20",
    "A73D=1FA2.20,2270.20 A73E=1FEA.20 A73F=1FEA.20 A740=20CF.20 A741-A742=20CF.20",
    "A743-A744=20D0.20 A745=20D1.20 A746=20DE.20 A747=20DE.20 A748=20E0.20 A749=20E0.20",
    "A74A=2160.20 A74B=2160.20 A74C=2158.20 A74D=2158.20 A74E=213C.20,213C.20",
    "A74F=213C.20,213C.20 A750=2171.20 A751=2171.20 A752=2178.20 A753-A754=2178.20",
    "A755=2179.20 A756=2185.20 A757-A758=2185.20 A759=2186.20 A75A=219D.20 A75B=219D.20",
    "A75C=21D1.20 A75D=21D1.20 A75E=224C.20 A75F=224C.20 A760=2247.20,2270.20",
    "A761=2247.20,2270.20 A762=22A2.20 A763=22A2.20 A764=22B9.20 A765-A766=22B9.20",
    "A767=22BA.20 A768=22BF.20 A769=22BF.20 A76A=22C3.20 A76B-A76C=22C3.20 A76D-A76E=22C4.20",
    "A76F=22C5.20 A770=22C5.20 A771=2005.20 A772=20FB.20 A773=2117.20 A774=2136.20",
    "A775-A776=21CF.20 A777=2212.20 A778=22C6.20 A779=1FEB.20,0.119 A77A=1FEB.20,0.119",
    "A77B=2042.20,0.119 A77C=2042.20,0.119 A77D=2051.20,0.119 A77E=206C.20 A77F=206C.20",
    "A780=2100.20 A781=2100.20 A782=2193.20,0.119 A783=2193.20,0.119 A784=21D2.20,0.119",
    "A785=21D2.20,0.119 A786=21F7.20,0.119 A787=21F7.20,0.119 A788-A78A=526.20 A78B=22E7.20",
    "A78C=22E7.20 A78D=222C.20 A78E=20F6.20 A790=212B.20 A791=212B.20 A792=1FDF.20",
    "A793=1FDF.20 A7A0=2051.20,0.35 A7A1=2051.20,0.35 A7A2=20C4.20,0.35 A7A3=20C4.20,0.35",
    "A7A4=2118.20,0.35 A7A5=2118.20,0.35 A7A6=2193.20,0.35 A7A7=2193.20,0.35",
    "A7A8=21D2.20,0.35 A7A9=21D2.20,0.35 A7AA=2082.20 A7F8=2075.20,0.39",
    "A7F9=213C.20,0.118,2007.20 A7FA=223C.20 A7FB=2050.20 A7FC=217A.20 A7FD=2115.20",
    "A7FE=209C.20 A7FF=2116.20 A800-A806=2CDC.20 A807-A80A=2CE4.20 A80B=0.C4",
    "A80C-A827=2CE8.20 A828-A82B=56C.20 A830-A835=1D62.20 A836-A837=570.20 A838=1F6F.20",
    "A839=572.20 A840-A847=3420.20 A848-A853=342C.20 A854-A857=3439.20 A858=343F.20",
    "A859-A85A=3442.20 A85B-A85C=3445.20 A85D=3449.20 A85E-A861=344E.20 A862-A865=344A.20",
    "A866=3452.20 A867=3438.20 A868=343D.20 A869-A86C=3428.20 A86D=343E.20 A86E=3444.20",
    "A86F-A870=3447.20 A871-A872=3440.20 A873=3453.20 A874-A875=454.20 A876-A877=29C.20",
    "A880=0.C4 A881=0.C5 A882-A8C4=2D04.20 A8CE-A8CF=298.20 A8D0-A8D9=1F98.20 A8E0-A8F1=",
    "A8F2=2A21.20 A8F3=2A21.20 A8F4=2A21.20 A8F5=2A21.20 A8F6=2A21.20 A8F7=2A21.20",
    "A8F8-A8FA=401.20 A8FB=2A22.20 A900-A909=1F98.20 A90A-A92A=354B.20 A92B=0.E4 A92C=0.E5",
    "A92D=0.E6 A92E=45A.20 A92F=2A0.20 A930-A953=3527.20 A95F=2E1.20 A960-A97C=41D4.20",
    "A980=0.C3 A981=0.C4 A982=0.CA A983=0.C5 A984-A9AA=37FC.20 A9AB=3824.20 A9AC=3824.20",
    "A9AD-A9B2=3826.20 A9B3=0.C2 A9B4=382C.20 A9B5=382C.20 A9B6-A9B9=382E.20",
    "A9BA-A9BB=3833.20 A9BC=382D.20 A9BD=3832.20 A9BE=3823.20 A9BF=3825.20 A9C0=3835.20",
    "A9C1-A9C6=2D6.20 A9C7=262.20 A9C8-A9C9=2AB.20 A9CA-A9CD=2DC.20 A9CF=1F4D.20",
    "A9D0-A9D9=1F98.20 A9DE-A9DF=45B.20 AA00-AA28=3771.20 AA29-AA32=379E.20",
    "AA33-AA36=379A.20 AA40-AA4D=37A8.20 AA50-AA59=1F98.20 AA5C=45D.20 AA5D-AA5F=2AD.20",
    "AA60=3572.20 AA61=357B.20 AA62=357E.20 AA63=3581.20 AA64=3588.20 AA65=358E.20",
    "AA66=3592.20 AA67=3594.20 AA68=3596.20 AA69=3599.20 AA6A=35A5.20 AA6B=35A9.20",
    "AA6C=35CA.20 AA6D=35CD.20 AA6E=35CF.20 AA6F=35AF.20 AA70=1F4F.20 AA71=35D0.20",
    "AA72=3584.20 AA73=35BD.20 AA74-AA76=3618.20 AA77-AA79=59B.20 AA7A=35BE.20 AA7B=3615.20",
    "AA80-AABE=3296.20 AABF=0.E1 AAC0=32D5.20 AAC1=0.E2 AAC2=32D6.20 AADB-AADC=32D7.20",
    "AADD=1F50.20 AADE-AADF=40E.20 AAE0-AAEA=2CB9.20 AAEB-AAEF=2CCC.20 AAF0=2B0.20",
    "AAF1=279.20 AAF2=2C9D.20 AAF3-AAF4=1F51.20 AAF5=2CD1.20 AAF6=2CDB.20 AB01-AB06=2852.20",
    "AB09-AB0E=2919.20 AB11-AB16=28FA.20 AB20-AB26=295C.20 AB28-AB2E=2974.20",
    "ABC0-ABDA=2C9E.20 ABDB-ABE2=2CD2.20 ABE3-ABEA=2CC4.20 ABEB=2B1.20 ABEC=0.CC",
    "ABED=2CDA.20 ABF0-ABF9=1F98.20 D7B0-D7C6=423A.20 D7CB-D7FB=42A9.20 F900=18C48.20",
    "F901=166F4.20 F902=18ECA.20 F903=18CC8.20 F904=16ED1.20 F905=14E32.20 F906=153E5.20",
    "F907=19F9C.20 F908=19F9C.20 F909=15951.20 F90A=191D1.20 F90B=15587.20 F90C=15948.20",
    "F90D=161F6.20 F90E=17669.20 F90F=17F85.20 F910=1863F.20 F911=187BA.20 F912=188F8.20",
    "F913=1908F.20 F914=16A02.20 F915=16D1B.20 F916=170D9.20 F917=173DE.20 F918=1843D.20",
    "F919=1916A.20 F91A=199F1.20 F91B=14E82.20 F91C=15375.20 F91D=16B04.20 F91E=1721B.20",
    "F91F=1862D.20 F920=19E1E.20 F921=15D50.20 F922=16FEB.20 F923=185CD.20 F924=18964.20",
    "F925=162C9.20 F926=181D8.20 F927=1881F.20 F928=15ECA.20 F929=16717.20 F92A=16D6A.20",
    "F92B=172FC.20 F92C=190CE.20 F92D=14F86.20 F92E=151B7.20 F92F=152DE.20 F930=164C4.20",
    "F931=16AD3.20 F932=17210.20 F933=176E7.20 F934=18001.20 F935=18606.20 F936=1865C.20",
    "F937=18DEF.20 F938=19732.20 F939=19B6F.20 F93A=19DFA.20 F93B=1788C.20 F93C=1797F.20",
    "F93D=17DA0.20 F93E=183C9.20 F93F=19304.20 F940=19E7F.20 F941=18AD6.20 F942=158DF.20",
    "F943=15F04.20 F944=17C60.20 F945=1807E.20 F946=17262.20 F947=178CA.20 F948=18CC2.20",
    "F949=196F7.20 F94A=158D8.20 F94B=15C62.20 F94C=16A13.20 F94D=16DDA.20 F94E=16F0F.20",
    "F94F=17D2F.20 F950=17E37.20 F951=1964B.20 F952=152D2.20 F953=1808B.20 F954=151DC.20",
    "F955=151CC.20 F956=17A1C.20 F957=17DBE.20 F958=183F1.20 F959=19675.20 F95A=18B80.20",
    "F95B=162CF.20 F95C=16A02.20 F95D=18AFE.20 F95E=14E39.20 F95F=15BE7.20 F960=16012.20",
    "F961=17387.20 F962=17570.20 F963=15317.20 F964=178FB.20 F965=14FBF.20 F966=15FA9.20",
    "F967=14E0D.20 F968=16CCC.20 F969=16578.20 F96A=17D22.20 F96B=153C3.20 F96C=1585E.20",
    "F96D=17701.20 F96E=18449.20 F96F=18AAA.20 F970=16BBA.20 F971=18FB0.20 F972=16C88.20",
    "F973=162FE.20 F974=182E5.20 F975=163A0.20 F976=17565.20 F977=14EAE.20 F978=15169.20",
    "F979=151C9.20 F97A=16881.20 F97B=17CE7.20 F97C=1826F.20 F97D=18AD2.20 F97E=191CF.20",
    "F97F=152F5.20 F980=15442.20 F981=15973.20 F982=15EEC.20 F983=165C5.20 F984=16FFE.20",
    "F985=1792A.20 F986=195AD.20 F987=19A6A.20 F988=19E97.20 F989=19ECE.20 F98A=1529B.20",
    "F98B=166C6.20 F98C=16B77.20 F98D=18F62.20 F98E=15E74.20 F98F=16190.20 F990=16200.20",
    "F991=1649A.20 F992=16F23.20 F993=17149.20 F994=17489.20 F995=179CA.20 F996=17DF4.20",
    "F997=1806F.20 F998=18F26.20 F999=184EE.20 F99A=19023.20 F99B=1934A.20 F99C=15217.20",
    "F99D=152A3.20 F99E=154BD.20 F99F=170C8.20 F9A0=188C2.20 F9A1=18AAA.20 F9A2=15EC9.20",
    "F9A3=15FF5.20 F9A4=1637B.20 F9A5=16BAE.20 F9A6=17C3E.20 F9A7=17375.20 F9A8=14EE4.20",
    "F9A9=156F9.20 F9AA=15BE7.20 F9AB=15DBA.20 F9AC=1601C.20 F9AD=173B2.20 F9AE=17469.20",
    "F9AF=17F9A.20 F9B0=18046.20 F9B1=19234.20 F9B2=196F6.20 F9B3=19748.20 F9B4=19818.20",
    "F9B5=14F8B.20 F9B6=179AE.20 F9B7=191B4.20 F9B8=196B8.20 F9B9=160E1.20 F9BA=14E86.20",
    "F9BB=150DA.20 F9BC=15BEE.20 F9BD=15C3F.20 F9BE=16599.20 F9BF=16A02.20 F9C0=171CE.20",
    "F9C1=17642.20 F9C2=184FC.20 F9C3=1907C.20 F9C4=19F8D.20 F9C5=16688.20 F9C6=1962E.20",
    "F9C7=15289.20 F9C8=1677B.20 F9C9=167F3.20 F9CA=16D41.20 F9CB=16E9C.20 F9CC=17409.20",
    "F9CD=17559.20 F9CE=1786B.20 F9CF=17D10.20 F9D0=1985E.20 F9D1=1516D.20 F9D2=1622E.20",
    "F9D3=19678.20 F9D4=1502B.20 F9D5=15D19.20 F9D6=16DEA.20 F9D7=18F2A.20 F9D8=15F8B.20",
    "F9D9=16144.20 F9DA=16817.20 F9DB=17387.20 F9DC=19686.20 F9DD=15229.20 F9DE=1540F.20",
    "F9DF=15C65.20 F9E0=16613.20 F9E1=1674E.20 F9E2=168A8.20 F9E3=16CE5.20 F9E4=17406.20",
    "F9E5=175E2.20 F9E6=17F79.20 F9E7=188CF.20 F9E8=188E1.20 F9E9=191CC.20 F9EA=196E2.20",
    "F9EB=1533F.20 F9EC=16EBA.20 F9ED=1541D.20 F9EE=171D0.20 F9EF=17498.20 F9F0=185FA.20",
    "F9F1=196A3.20 F9F2=19C57.20 F9F3=19E9F.20 F9F4=16797.20 F9F5=16DCB.20 F9F6=181E8.20",
    "F9F7=17ACB.20 F9F8=17B20.20 F9F9=17C92.20 F9FA=172C0.20 F9FB=17099.20 F9FC=18B58.20",
    "F9FD=14EC0.20 F9FE=18336.20 F9FF=1523A.20 FA00=15207.20 FA01=15EA6.20 FA02=162D3.20",
    "FA03=17CD6.20 FA04=15B85.20 FA05=16D1E.20 FA06=166B4.20 FA07=18F3B.20 FA08=1884C.20",
    "FA09=1964D.20 FA0A=1898B.20 FA0B=15ED3.20 FA0C=15140.20 FA0D=155C0.20",
    "FA0E-FA0F=1FA0E.20 FA10=1585A.20 FA11=1FA11.20 FA12=16674.20 FA13-FA14=1FA13.20",
    "FA15=151DE.20 FA16=1732A.20 FA17=176CA.20 FA18=1793C.20 FA19=1795E.20 FA1A=17965.20",
    "FA1B=1798F.20 FA1C=19756.20 FA1D=17CBE.20 FA1E=17FBD.20 FA1F=1FA1F.20 FA20=18612.20",
    "FA21=1FA21.20 FA22=18AF8.20 FA23-FA24=1FA23.20 FA25=19038.20 FA26=190FD.20",
    "FA27-FA29=1FA27.20 FA2A=198EF.20 FA2B=198FC.20 FA2C=19928.20 FA2D=19DB4.20",
    "FA2E=190DE.20 FA2F=196B7.20 FA30=14FAE.20 FA31=150E7.20 FA32=1514D.20 FA33=152C9.20",
    "FA34=152E4.20 FA35=15351.20 FA36=1559D.20 FA37=15606.20 FA38=15668.20 FA39=15840.20",
    "FA3A=158A8.20 FA3B=15C64.20 FA3C=15C6E.20 FA3D=16094.20 FA3E=16168.20 FA3F=1618E.20",
    "FA40=161F2.20 FA41=1654F.20 FA42=165E2.20 FA43=16691.20 FA44=16885.20 FA45=16D77.20",
    "FA46=16E1A.20 FA47=16F22.20 FA48=1716E.20 FA49=1722B.20 FA4A=17422.20 FA4B=17891.20",
    "FA4C=1793E.20 FA4D=17949.20 FA4E=17948.20 FA4F=17950.20 FA50=17956.20 FA51=1795D.20",
    "FA52-FA53=1798D.20 FA54=17A40.20 FA55=17A81.20 FA56=17BC0.20 FA57=17DF4.20",
    "FA58=17E09.20 FA59=17E41.20 FA5A=17F72.20 FA5B=18005.20 FA5C=181ED.20 FA5D=18279.20",
    "FA5E=18279.20 FA5F=18457.20 FA60=18910.20 FA61=18996.20 FA62=18B01.20 FA63=18B39.20",
    "FA64=18CD3.20 FA65=18D08.20 FA66=18FB6.20 FA67=19038.20 FA68=196E3.20 FA69=197FF.20",
    "FA6A=1983B.20 FA6B=16075.20 FA6C=442EE.20 FA6D=18218.20 FA70=14E26.20 FA71=151B5.20",
    "FA72=15168.20 FA73=14F80.20 FA74=15145.20 FA75=15180.20 FA76=152C7.20 FA77=152FA.20",
    "FA78=1559D.20 FA79=15555.20 FA7A=15599.20 FA7B=155E2.20 FA7C=1585A.20 FA7D=158B3.20",
    "FA7E=15944.20 FA7F=15954.20 FA80=15A62.20 FA81=15B28.20 FA82=15ED2.20 FA83=15ED9.20",
    "FA84=15F69.20 FA85=15FAD.20 FA86=160D8.20 FA87=1614E.20 FA88=16108.20 FA89=1618E.20",
    "FA8A=16160.20 FA8B=161F2.20 FA8C=16234.20 FA8D=163C4.20 FA8E=1641C.20 FA8F=16452.20",
    "FA90=16556.20 FA91=16674.20 FA92=16717.20 FA93=1671B.20 FA94=16756.20 FA95=16B79.20",
    "FA96=16BBA.20 FA97=16D41.20 FA98=16EDB.20 FA99=16ECB.20 FA9A=16F22.20 FA9B=1701E.20",
    "FA9C=1716E.20 FA9D=177A7.20 FA9E=17235.20 FA9F=172AF.20 FAA0=1732A.20 FAA1=17471.20",
    "FAA2=17506.20 FAA3=1753B.20 FAA4=1761D.20 FAA5=1761F.20 FAA6=176CA.20 FAA7=176DB.20",
    "FAA8=176F4.20 FAA9=1774A.20 FAAA=17740.20 FAAB=178CC.20 FAAC=17AB1.20 FAAD=17BC0.20",
    "FAAE=17C7B.20 FAAF=17D5B.20 FAB0=17DF4.20 FAB1=17F3E.20 FAB2=18005.20 FAB3=18352.20",
    "FAB4=183EF.20 FAB5=18779.20 FAB6=18941.20 FAB7=18986.20 FAB8=18996.20 FAB9=18ABF.20",
    "FABA=18AF8.20 FABB=18ACB.20 FABC=18B01.20 FABD=18AFE.20 FABE=18AED.20 FABF=18B39.20",
    "FAC0=18B8A.20 FAC1=18D08.20 FAC2=18F38.20 FAC3=19072.20 FAC4=19199.20 FAC5=19276.20",
    "FAC6=1967C.20 FAC7=196E3.20 FAC8=19756.20 FAC9=197DB.20 FACA=197FF.20 FACB=1980B.20",
    "FACC=1983B.20 FACD=19B12.20 FACE=19F9C.20 FACF=4284A.20 FAD0=42844.20 FAD1=433D5.20",
    "FAD2=23B9D.20 FAD3=24018.20 FAD4=24039.20 FAD5=45249.20 FAD6=45CD0.20 FAD7=47ED3.20",
    "FAD8=19F43.20 FAD9=19F8E.20 FB00=2042.20,2042.20 FB01=2042.20,2090.20",
    "FB02=2042.20,20D6.20 FB03=2042.20,2042.20,2090.20 FB04=2042.20,2042.20,20D6.20",
    "FB05=21D2.20,0.119,21F7.20 FB06=21D2.20,21F7.20 FB13=2609.20,260C.20",
    "FB14=2609.20,25FA.20 FB15=2609.20,2600.20 FB16=2614.20,260C.20 FB17=2609.20,2602.20",
    "FB1D=2627.20,0.56 FB1E=0.61 FB1F=2627.20,2627.20,0.59 FB20=262D.20 FB21=261E.20",
    "FB22-FB23=2621.20 FB24-FB26=2628.20 FB27=2631.20 FB28=2633.20 FB29=666.20",
    "FB2A=2632.20,0.5E FB2B=2632.20,0.5D FB2C=2632.20,0.5F,0.5E FB2D=2632.20,0.5F,0.5D",
    "FB2E=261E.20,0.59 FB2F=261E.20,0.5A FB30=261E.20,0.5F FB31=261F.20,0.5F",
    "FB32=2620.20,0.5F FB33=2621.20,0.5F FB34=2622.20,0.5F FB35=2623.20,0.5F",
    "FB36=2624.20,0.5F FB38=2626.20,0.5F FB39=2627.20,0.5F FB3A=2628.20,0.5F",
    "FB3B=2628.20,0.5F FB3C=2629.20,0.5F FB3E=262A.20,0.5F FB40=262B.20,0.5F",
    "FB41=262C.20,0.5F FB43=262E.20,0.5F FB44=262E.20,0.5F FB46=262F.20,0.5F",
    "FB47=2630.20,0.5F FB48=2631.20,0.5F FB49=2632.20,0.5F FB4A=2633.20,0.5F",
    "FB4B=2623.20,0.5B FB4C=261F.20,0.60 FB4D=2628.20,0.60 FB4E=262E.20,0.60",
    "FB4F=261E.20,2629.20 FB50=2668.20 FB51=2668.20 FB52=2675.20 FB53=2675.20 FB54=2675.20",
    "FB55-FB56=2675.20 FB57=2676.20 FB58=2676.20 FB59-FB5A=2676.20 FB5B=2677.20 FB5C=2677.20",
    "FB5D=2677.20 FB5E=2688.20 FB5F=2688.20 FB60=2688.20 FB61=2688.20 FB62=268B.20",
    "FB63=268B.20 FB64=268B.20 FB65=268B.20 FB66=2687.20 FB67=2687.20 FB68=2687.20",
    "FB69=2687.20 FB6A=26E9.20 FB6B=26E9.20 FB6C=26E9.20 FB6D=26E9.20 FB6E=26EC.20",
    "FB6F=26EC.20 FB70=26EC.20 FB71=26EC.20 FB72=2691.20 FB73=2691.20 FB74=2691.20",
    "FB75=2691.20 FB76=2690.20 FB77=2690.20 FB78=2690.20 FB79=2690.20 FB7A=2692.20",
    "FB7B=2692.20 FB7C=2692.20 FB7D=2692.20 FB7E=2694.20 FB7F=2694.20 FB80=2694.20",
    "FB81=2694.20 FB82=26AB.20 FB83=26AB.20 FB84=26AA.20 FB85=26AA.20 FB86=26AD.20",
    "FB87=26AD.20 FB88=26A6.20 FB89=26A6.20 FB8A=26BC.20 FB8B=26BC.20 FB8C=26B5.20",
    "FB8D=26B5.20 FB8E=26F7.20 FB8F=26F7.20 FB90=26F7.20 FB91=26F7.20 FB92=26FF.20",
    "FB93=26FF.20 FB94=26FF.20 FB95=26FF.20 FB96=2704.20 FB97=2704.20 FB98=2704.20",
    "FB99=2704.20 FB9A=2702.20 FB9B=2702.20 FB9C=2702.20 FB9D=2702.20 FB9E=2719.20",
    "FB9F=2719.20 FBA0=271B.20 FBA1=271B.20 FBA2=271B.20 FBA3=271B.20 FBA4=2727.20,0.83",
    "FBA5=2727.20,0.83 FBA6=2724.20 FBA7=2724.20 FBA8=2724.20 FBA9=2724.20 FBAA=2723.20",
    "FBAB=2723.20 FBAC=2723.20 FBAD=2723.20 FBAE=2745.20 FBAF=2745.20 FBB0=2745.20,0.83",
    "FBB1=2745.20,0.83 FBB2-FBC1=536.20 FBD3=26FC.20 FBD4=26FC.20 FBD5=26FC.20 FBD6=26FC.20",
    "FBD7=272C.20 FBD8=272C.20 FBD9=272B.20 FBDA=272B.20 FBDB=272D.20 FBDC=272D.20",
    "FBDD=272C.20,2664.20 FBDE=2730.20 FBDF=2730.20 FBE0=272A.20 FBE1=272A.20 FBE2=272E.20",
    "FBE3=272E.20 FBE4=273B.20 FBE5=273B.20 FBE6=273B.20 FBE7=273B.20 FBE8=2736.20",
    "FBE9=2736.20 FBEA=266E.20,2672.20 FBEB=266E.20,2672.20 FBEC=266E.20,2727.20",
    "FBED=266E.20,2727.20 FBEE=266E.20,2728.20 FBEF=266E.20,2728.20 FBF0=266E.20,272C.20",
    "FBF1=266E.20,272C.20 FBF2=266E.20,272B.20 FBF3=266E.20,272B.20 FBF4=266E.20,272D.20",
    "FBF5=266E.20,272D.20 FBF6=266E.20,273B.20 FBF7=266E.20,273B.20 FBF8=266E.20,273B.20",
    "FBF9=266E.20,2736.20 FBFA=266E.20,2736.20 FBFB=266E.20,2736.20 FBFC=2738.20",
    "FBFD=2738.20 FBFE=2738.20 FBFF=2738.20 FC00=266E.20,268F.20 FC01=266E.20,2699.20",
    "FC02=266E.20,2714.20 FC03=266E.20,2736.20 FC04=266E.20,2737.20 FC05=2674.20,268F.20",
    "FC06=2674.20,2699.20 FC07=2674.20,269A.20 FC08=2674.20,2714.20 FC09=2674.20,2736.20",
    "FC0A=2674.20,2737.20 FC0B=2685.20,268F.20 FC0C=2685.20,2699.20 FC0D=2685.20,269A.20",
    "FC0E=2685.20,2714.20 FC0F=2685.20,2736.20 FC10=2685.20,2737.20 FC11=2686.20,268F.20",
    "FC12=2686.20,2714.20 FC13=2686.20,2736.20 FC14=2686.20,2737.20 FC15=268F.20,2699.20",
    "FC16=268F.20,2714.20 FC17=2699.20,268F.20 FC18=2699.20,2714.20 FC19=269A.20,268F.20",
    "FC1A=269A.20,2699.20 FC1B=269A.20,2714.20 FC1C=26C6.20,268F.20 FC1D=26C6.20,2699.20",
    "FC1E=26C6.20,269A.20 FC1F=26C6.20,2714.20 FC20=26D1.20,2699.20 FC21=26D1.20,2714.20",
    "FC22=26D2.20,268F.20 FC23=26D2.20,2699.20 FC24=26D2.20,269A.20 FC25=26D2.20,2714.20",
    "FC26=26D7.20,2699.20 FC27=26D7.20,2714.20 FC28=26D8.20,2714.20 FC29=26DB.20,268F.20",
    "FC2A=26DB.20,2714.20 FC2B=26DC.20,268F.20 FC2C=26DC.20,2714.20 FC2D=26E4.20,268F.20",
    "FC2E=26E4.20,2699.20 FC2F=26E4.20,269A.20 FC30=26E4.20,2714.20 FC31=26E4.20,2736.20",
    "FC32=26E4.20,2737.20 FC33=26F0.20,2699.20 FC34=26F0.20,2714.20 FC35=26F0.20,2736.20",
    "FC36=26F0.20,2737.20 FC37=26F6.20,2672.20 FC38=26F6.20,268F.20 FC39=26F6.20,2699.20",
    "FC3A=26F6.20,269A.20 FC3B=26F6.20,270C.20 FC3C=26F6.20,2714.20 FC3D=26F6.20,2736.20",
    "FC3E=26F6.20,2737.20 FC3F=270C.20,268F.20 FC40=270C.20,2699.20 FC41=270C.20,269A.20",
    "FC42=270C.20,2714.20 FC43=270C.20,2736.20 FC44=270C.20,2737.20 FC45=2714.20,268F.20",
    "FC46=2714.20,2699.20 FC47=2714.20,269A.20 FC48=2714.20,2714.20 FC49=2714.20,2736.20",
    "FC4A=2714.20,2737.20 FC4B=2718.20,268F.20 FC4C=2718.20,2699.20 FC4D=2718.20,269A.20",
    "FC4E=2718.20,2714.20 FC4F=2718.20,2736.20 FC50=2718.20,2737.20 FC51=2722.20,268F.20",
    "FC52=2722.20,2714.20 FC53=2722.20,2736.20 FC54=2722.20,2737.20 FC55=2737.20,268F.20",
    "FC56=2737.20,2699.20 FC57=2737.20,269A.20 FC58=2737.20,2714.20 FC59=2737.20,2736.20",
    "FC5A=2737.20,2737.20 FC5B=26A5.20,0.98 FC5C=26B3.20,0.98 FC5D=2736.20,0.98",
    "FC5E=0.70,0.80 FC5F=0.73,0.80 FC60=0.76,0.80 FC61=0.7A,0.80 FC62=0.7D,0.80",
    "FC63=0.80,0.98 FC64=266E.20,26B3.20 FC65=266E.20,26B4.20 FC66=266E.20,2714.20",
    "FC67=266E.20,2718.20 FC68=266E.20,2736.20 FC69=266E.20,2737.20 FC6A=2674.20,26B3.20",
    "FC6B=2674.20,26B4.20 FC6C=2674.20,2714.20 FC6D=2674.20,2718.20 FC6E=2674.20,2736.20",
    "FC6F=2674.20,2737.20 FC70=2685.20,26B3.20 FC71=2685.20,26B4.20 FC72=2685.20,2714.20",
    "FC73=2685.20,2718.20 FC74=2685.20,2736.20 FC75=2685.20,2737.20 FC76=2686.20,26B3.20",
    "FC77=2686.20,26B4.20 FC78=2686.20,2714.20 FC79=2686.20,2718.20 FC7A=2686.20,2736.20",
    "FC7B=2686.20,2737.20 FC7C=26E4.20,2736.20 FC7D=26E4.20,2737.20 FC7E=26F0.20,2736.20",
    "FC7F=26F0.20,2737.20 FC80=26F6.20,2672.20 FC81=26F6.20,270C.20 FC82=26F6.20,2714.20",
    "FC83=26F6.20,2736.20 FC84=26F6.20,2737.20 FC85=270C.20,2714.20 FC86=270C.20,2736.20",
    "FC87=270C.20,2737.20 FC88=2714.20,2672.20 FC89=2714.20,2714.20 FC8A=2718.20,26B3.20",
    "FC8B=2718.20,26B4.20 FC8C=2718.20,2714.20 FC8D=2718.20,2718.20 FC8E=2718.20,2736.20",
    "FC8F=2718.20,2737.20 FC90=2736.20,0.98 FC91=2737.20,26B3.20 FC92=2737.20,26B4.20",
    "FC93=2737.20,2714.20 FC94=2737.20,2718.20 FC95=2737.20,2736.20 FC96=2737.20,2737.20",
    "FC97=266E.20,268F.20 FC98=266E.20,2699.20 FC99=266E.20,269A.20 FC9A=266E.20,2714.20",
    "FC9B=266E.20,2722.20 FC9C=2674.20,268F.20 FC9D=2674.20,2699.20 FC9E=2674.20,269A.20",
    "FC9F=2674.20,2714.20 FCA0=2674.20,2722.20 FCA1=2685.20,268F.20 FCA2=2685.20,2699.20",
    "FCA3=2685.20,269A.20 FCA4=2685.20,2714.20 FCA5=2685.20,2722.20 FCA6=2686.20,2714.20",
    "FCA7=268F.20,2699.20 FCA8=268F.20,2714.20 FCA9=2699.20,268F.20 FCAA=2699.20,2714.20",
    "FCAB=269A.20,268F.20 FCAC=269A.20,2714.20 FCAD=26C6.20,268F.20 FCAE=26C6.20,2699.20",
    "FCAF=26C6.20,269A.20 FCB0=26C6.20,2714.20 FCB1=26D1.20,2699.20 FCB2=26D1.20,269A.20",
    "FCB3=26D1.20,2714.20 FCB4=26D2.20,268F.20 FCB5=26D2.20,2699.20 FCB6=26D2.20,269A.20",
    "FCB7=26D2.20,2714.20 FCB8=26D7.20,2699.20 FCB9=26D8.20,2714.20 FCBA=26DB.20,268F.20",
    "FCBB=26DB.20,2714.20 FCBC=26DC.20,268F.20 FCBD=26DC.20,2714.20 FCBE=26E4.20,268F.20",
    "FCBF=26E4.20,2699.20 FCC0=26E4.20,269A.20 FCC1=26E4.20,2714.20 FCC2=26F0.20,2699.20",
    "FCC3=26F0.20,2714.20 FCC4=26F6.20,268F.20 FCC5=26F6.20,2699.20 FCC6=26F6.20,269A.20",
    "FCC7=26F6.20,270C.20 FCC8=26F6.20,2714.20 FCC9=270C.20,268F.20 FCCA=270C.20,2699.20",
    "FCCB=270C.20,269A.20 FCCC=270C.20,2714.20 FCCD=270C.20,2722.20 FCCE=2714.20,268F.20",
    "FCCF=2714.20,2699.20 FCD0=2714.20,269A.20 FCD1=2714.20,2714.20 FCD2=2718.20,268F.20",
    "FCD3=2718.20,2699.20 FCD4=2718.20,269A.20 FCD5=2718.20,2714.20 FCD6=2718.20,2722.20",
    "FCD7=2722.20,268F.20 FCD8=2722.20,2714.20 FCD9=2722.20,0.98 FCDA=2737.20,268F.20",
    "FCDB=2737.20,2699.20 FCDC=2737.20,269A.20 FCDD=2737.20,2714.20 FCDE=2737.20,2722.20",
    "FCDF=266E.20,2714.20 FCE0=266E.20,2722.20 FCE1=2674.20,2714.20 FCE2=2674.20,2722.20",
    "FCE3=2685.20,2714.20 FCE4=2685.20,2722.20 FCE5=2686.20,2714.20 FCE6=2686.20,2722.20",
    "FCE7=26C6.20,2714.20 FCE8=26C6.20,2722.20 FCE9=26C7.20,2714.20 FCEA=26C7.20,2722.20",
    "FCEB=26F6.20,270C.20 FCEC=26F6.20,2714.20 FCED=270C.20,2714.20 FCEE=2718.20,2714.20",
    "FCEF=2718.20,2722.20 FCF0=2737.20,2714.20 FCF1=2737.20,2722.20 FCF2=0.76,0.80",
    "FCF3=0.7A,0.80 FCF4=0.7D,0.80 FCF5=26D7.20,2736.20 FCF6=26D7.20,2737.20",
    "FCF7=26DB.20,2736.20 FCF8=26DB.20,2737.20 FCF9=26DC.20,2736.20 FCFA=26DC.20,2737.20",
    "FCFB=26C6.20,2736.20 FCFC=26C6.20,2737.20 FCFD=26C7.20,2736.20 FCFE=26C7.20,2737.20",
    "FCFF=2699.20,2736.20 FD00=2699.20,2737.20 FD01=268F.20,2736.20 FD02=268F.20,2737.20",
    "FD03=269A.20,2736.20 FD04=269A.20,2737.20 FD05=26D1.20,2736.20 FD06=26D1.20,2737.20",
    "FD07=26D2.20,2736.20 FD08=26D2.20,2737.20 FD09=26C7.20,268F.20 FD0A=26C7.20,2699.20",
    "FD0B=26C7.20,269A.20 FD0C=26C7.20,2714.20 FD0D=26C7.20,26B3.20 FD0E=26C6.20,26B3.20",
    "FD0F=26D1.20,26B3.20 FD10=26D2.20,26B3.20 FD11=26D7.20,2736.20 FD12=26D7.20,2737.20",
    "FD13=26DB.20,2736.20 FD14=26DB.20,2737.20 FD15=26DC.20,2736.20 FD16=26DC.20,2737.20",
    "FD17=26C6.20,2736.20 FD18=26C6.20,2737.20 FD19=26C7.20,2736.20 FD1A=26C7.20,2737.20",
    "FD1B=2699.20,2736.20 FD1C=2699.20,2737.20 FD1D=268F.20,2736.20 FD1E=268F.20,2737.20",
    "FD1F=269A.20,2736.20 FD20=269A.20,2737.20 FD21=26D1.20,2736.20 FD22=26D1.20,2737.20",
    "FD23=26D2.20,2736.20 FD24=26D2.20,2737.20 FD25=26C7.20,268F.20 FD26=26C7.20,2699.20",
    "FD27=26C7.20,269A.20 FD28=26C7.20,2714.20 FD29=26C7.20,26B3.20 FD2A=26C6.20,26B3.20",
    "FD2B=26D1.20,26B3.20 FD2C=26D2.20,26B3.20 FD2D=26C7.20,268F.20 FD2E=26C7.20,2699.20",
    "FD2F=26C7.20,269A.20 FD30=26C7.20,2714.20 FD31=26C6.20,2722.20 FD32=26C7.20,2722.20",
    "FD33=26D7.20,2714.20 FD34=26C6.20,268F.20 FD35=26C6.20,2699.20 FD36=26C6.20,269A.20",
    "FD37=26C7.20,268F.20 FD38=26C7.20,2699.20 FD39=26C7.20,269A.20 FD3A=26D7.20,2714.20",
    "FD3B=26D8.20,2714.20 FD3C=2672.20,0.6D FD3D=2672.20,0.6D FD3E-FD3F=392.20",
    "FD50=2685.20,268F.20,2714.20 FD51=2685.20,2699.20,268F.20 FD52=2685.20,2699.20,268F.20",
    "FD53=2685.20,2699.20,2714.20 FD54=2685.20,269A.20,2714.20 FD55=2685.20,2714.20,268F.20",
    "FD56=2685.20,2714.20,2699.20 FD57=2685.20,2714.20,269A.20 FD58=268F.20,2714.20,2699.20",
    "FD59=268F.20,2714.20,2699.20 FD5A=2699.20,2714.20,2737.20 FD5B=2699.20,2714.20,2736.20",
    "FD5C=26C6.20,2699.20,268F.20 FD5D=26C6.20,268F.20,2699.20 FD5E=26C6.20,268F.20,2736.20",
    "FD5F=26C6.20,2714.20,2699.20 FD60=26C6.20,2714.20,2699.20 FD61=26C6.20,2714.20,268F.20",
    "FD62=26C6.20,2714.20,2714.20 FD63=26C6.20,2714.20,2714.20 FD64=26D1.20,2699.20,2699.20",
    "FD65=26D1.20,2699.20,2699.20 FD66=26D1.20,2714.20,2714.20 FD67=26C7.20,2699.20,2714.20",
    "FD68=26C7.20,2699.20,2714.20 FD69=26C7.20,268F.20,2737.20 FD6A=26C7.20,2714.20,269A.20",
    "FD6B=26C7.20,2714.20,269A.20 FD6C=26C7.20,2714.20,2714.20 FD6D=26C7.20,2714.20,2714.20",
    "FD6E=26D2.20,2699.20,2736.20 FD6F=26D2.20,269A.20,2714.20 FD70=26D2.20,269A.20,2714.20",
    "FD71=26D7.20,2714.20,2699.20 FD72=26D7.20,2714.20,2699.20 FD73=26D7.20,2714.20,2714.20",
    "FD74=26D7.20,2714.20,2737.20 FD75=26DB.20,268F.20,2714.20 FD76=26DB.20,2714.20,2714.20",
    "FD77=26DB.20,2714.20,2714.20 FD78=26DB.20,2714.20,2736.20 FD79=26DC.20,2714.20,2714.20",
    "FD7A=26DC.20,2714.20,2737.20 FD7B=26DC.20,2714.20,2736.20 FD7C=26E4.20,269A.20,2714.20",
    "FD7D=26E4.20,269A.20,2714.20 FD7E=26F0.20,2714.20,2699.20 FD7F=26F0.20,2714.20,2714.20",
    "FD80=270C.20,2699.20,2714.20 FD81=270C.20,2699.20,2737.20 FD82=270C.20,2699.20,2736.20",
    "FD83=270C.20,268F.20,268F.20 FD84=270C.20,268F.20,268F.20 FD85=270C.20,269A.20,2714.20",
    "FD86=270C.20,269A.20,2714.20 FD87=270C.20,2714.20,2699.20 FD88=270C.20,2714.20,2699.20",
    "FD89=2714.20,2699.20,268F.20 FD8A=2714.20,2699.20,2714.20 FD8B=2714.20,2699.20,2737.20",
    "FD8C=2714.20,268F.20,2699.20 FD8D=2714.20,268F.20,2714.20 FD8E=2714.20,269A.20,268F.20",
    "FD8F=2714.20,269A.20,2714.20 FD92=2714.20,268F.20,269A.20 FD93=2722.20,2714.20,268F.20",
    "FD94=2722.20,2714.20,2714.20 FD95=2718.20,2699.20,2714.20 FD96=2718.20,2699.20,2736.20",
    "FD97=2718.20,268F.20,2714.20 FD98=2718.20,268F.20,2714.20 FD99=2718.20,268F.20,2736.20",
    "FD9A=2718.20,2714.20,2737.20 FD9B=2718.20,2714.20,2736.20 FD9C=2737.20,2714.20,2714.20",
    "FD9D=2737.20,2714.20,2714.20 FD9E=2674.20,269A.20,2737.20 FD9F=2685.20,268F.20,2737.20",
    "FDA0=2685.20,268F.20,2736.20 FDA1=2685.20,269A.20,2737.20 FDA2=2685.20,269A.20,2736.20",
    "FDA3=2685.20,2714.20,2737.20 FDA4=2685.20,2714.20,2736.20 FDA5=268F.20,2714.20,2737.20",
    "FDA6=268F.20,2699.20,2736.20 FDA7=268F.20,2714.20,2736.20 FDA8=26C6.20,269A.20,2736.20",
    "FDA9=26D1.20,2699.20,2737.20 FDAA=26C7.20,2699.20,2737.20 FDAB=26D2.20,2699.20,2737.20",
    "FDAC=270C.20,268F.20,2737.20 FDAD=270C.20,2714.20,2737.20 FDAE=2737.20,2699.20,2737.20",
    "FDAF=2737.20,268F.20,2737.20 FDB0=2737.20,2714.20,2737.20 FDB1=2714.20,2714.20,2737.20",
    "FDB2=26F0.20,2714.20,2737.20 FDB3=2718.20,2699.20,2737.20 FDB4=26F0.20,2714.20,2699.20",
    "FDB5=270C.20,2699.20,2714.20 FDB6=26DB.20,2714.20,2737.20 FDB7=26F6.20,2714.20,2737.20",
    "FDB8=2718.20,268F.20,2699.20 FDB9=2714.20,269A.20,2737.20 FDBA=270C.20,268F.20,2714.20",
    "FDBB=26F6.20,2714.20,2714.20 FDBC=270C.20,268F.20,2714.20 FDBD=2718.20,268F.20,2699.20",
    "FDBE=268F.20,2699.20,2737.20 FDBF=2699.20,268F.20,2737.20 FDC0=2714.20,268F.20,2737.20",
    "FDC1=26E4.20,2714.20,2737.20 FDC2=2674.20,2699.20,2737.20 FDC3=26F6.20,2714.20,2714.20",
    "FDC4=26DB.20,268F.20,2714.20 FDC5=26D1.20,2714.20,2714.20 FDC6=26C6.20,269A.20,2737.20",
    "FDC7=2718.20,268F.20,2737.20 FDF0=26D1.20,270C.20,2745.20 FDF1=26F0.20,270C.20,2745.20",
    "FDF2=2672.20,270C.20,270C.20,2722.20 FDF3=2672.20,26F6.20,2674.20,26B3.20",
    "FDF4=2714.20,2699.20,2714.20,26A4.20 FDF5=26D1.20,270C.20,26DB.20,2714.20",
    "FDF6=26B3.20,26C6.20,2728.20,270C.20 FDF7=26DB.20,270C.20,2737.20,2722.20",
    "FDF8=2728.20,26C6.20,270C.20,2714.20 FDF9=26D1.20,270C.20,2736.20",
    "FDFA=26D1.20,270C.20,2736.20,209.20,2672.20,270C.20,270C.20,2722.20,209.20,26DB.20,270C.20,2737.20,2722.20,209.20,2728.20,26C6.20,270C.20,2714.20",
    "FDFB=268F.20,270C.20,209.20,268F.20,270C.20,2672.20,270C.20,2722.20",
    "FDFC=26B3.20,2738.20,2672.20,270C.20 FDFD=535.20 FE00-FE0F= FE10=223.20 FE11=236.20",
    "FE12=292.20 FE13=240.20 FE14=23A.20 FE15=267.20 FE16=26D.20 FE17-FE18=38C.20",
    "FE19=27E.20,27E.20,27E.20 FE20=0.4F FE21= FE22=0.4E FE23-FE26= FE30=27E.20,27E.20",
    "FE31=216.20 FE32=215.20 FE33=20B.20 FE34=20B.20 FE35-FE36=328.20 FE37-FE38=32C.20",
    "FE39-FE3A=38A.20 FE3B-FE3C=388.20 FE3D-FE3E=382.20 FE3F-FE40=380.20 FE41-FE44=384.20",
    "FE45-FE46=237.20 FE47-FE48=32A.20 FE49=20A.20 FE4A=20A.20 FE4B=20A.20 FE4C-FE4D=20A.20",
    "FE4E=20B.20 FE4F=20B.20 FE50=223.20 FE51=236.20 FE52=27E.20 FE54=23A.20 FE55=240.20",
    "FE56=26D.20 FE57=267.20 FE58=216.20 FE59-FE5A=328.20 FE5B-FE5C=32C.20 FE5D-FE5E=38A.20",
    "FE5F=3AC.20 FE60=3A9.20 FE61=3A1.20 FE62=666.20 FE63=20D.20 FE64=66A.20 FE65=66C.20",
    "FE66=66B.20 FE68=3A7.20 FE69=1F64.20 FE6A=3AD.20 FE6B=3A0.20 FE70=0.6D FE71=0.6D",
    "FE72=0.70 FE73= FE74=0.73 FE76=0.76 FE77=0.76 FE78=0.7A FE79=0.7A FE7A=0.7D FE7B=0.7D",
    "FE7C=0.80 FE7D=0.80 FE7E=0.81 FE7F=0.81 FE80-FE81=2664.20 FE82-FE83=2665.20",
    "FE84=2666.20 FE85=2669.20 FE86-FE87=2669.20 FE88=266A.20 FE89=266E.20 FE8A=266E.20",
    "FE8B=266E.20 FE8C=266E.20 FE8D=2672.20 FE8E=2672.20 FE8F=2674.20 FE90=2674.20",
    "FE91=2674.20 FE92=2674.20 FE93=2684.20 FE94-FE95=2684.20 FE96=2685.20 FE97=2685.20",
    "FE98-FE99=2685.20 FE9A=2686.20 FE9B=2686.20 FE9C=2686.20 FE9D=268F.20 FE9E=268F.20",
    "FE9F=268F.20 FEA0=268F.20 FEA1=2699.20 FEA2=2699.20 FEA3=2699.20 FEA4-FEA5=2699.20",
    "FEA6=269A.20 FEA7=269A.20 FEA8=269A.20 FEA9=26A4.20 FEAA-FEAB=26A4.20 FEAC=26A5.20",
    "FEAD=26B3.20 FEAE-FEAF=26B3.20 FEB0=26B4.20 FEB1=26C6.20 FEB2=26C6.20 FEB3=26C6.20",
    "FEB4-FEB5=26C6.20 FEB6=26C7.20 FEB7=26C7.20 FEB8=26C7.20 FEB9=26D1.20 FEBA=26D1.20",
    "FEBB=26D1.20 FEBC-FEBD=26D1.20 FEBE=26D2.20 FEBF=26D2.20 FEC0=26D2.20 FEC1=26D7.20",
    "FEC2=26D7.20 FEC3=26D7.20 FEC4-FEC5=26D7.20 FEC6=26D8.20 FEC7=26D8.20 FEC8=26D8.20",
    "FEC9=26DB.20 FECA=26DB.20 FECB=26DB.20 FECC-FECD=26DB.20 FECE=26DC.20 FECF=26DC.20",
    "FED0=26DC.20 FED1=26E4.20 FED2=26E4.20 FED3=26E4.20 FED4=26E4.20 FED5=26F0.20",
    "FED6=26F0.20 FED7=26F0.20 FED8=26F0.20 FED9=26F6.20 FEDA=26F6.20 FEDB=26F6.20",
    "FEDC=26F6.20 FEDD=270C.20 FEDE=270C.20 FEDF=270C.20 FEE0=270C.20 FEE1=2714.20",
    "FEE2=2714.20 FEE3=2714.20 FEE4=2714.20 FEE5=2718.20 FEE6=2718.20 FEE7=2718.20",
    "FEE8=2718.20 FEE9=2722.20 FEEA=2722.20 FEEB=2722.20 FEEC=2722.20 FEED=2728.20",
    "FEEE=2728.20 FEEF=2736.20 FEF0-FEF1=2736.20 FEF2=2737.20 FEF3=2737.20 FEF4=2737.20",
    "FEF5=270C.20,2665.20 FEF6=270C.20,2665.20 FEF7=270C.20,2666.20 FEF8=270C.20,2666.20",
    "FEF9=270C.20,266A.20 FEFA=270C.20,266A.20 FEFB=270C.20,2672.20 FEFC=270C.20,2672.20",
    "FEFF= FF01=267.20 FF02=31D.20 FF03=3AC.20 FF04=1F64.20 FF05=3AD.20 FF06=3A9.20",
    "FF07=316.20 FF08-FF09=328.20 FF0A=3A1.20 FF0B=666.20 FF0C=223.20 FF0D=20D.20",
    "FF0E=27E.20 FF0F=3A6.20 FF10-FF19=1F98.20 FF1A=240.20 FF1B=23A.20 FF1C-FF1E=66A.20",
    "FF1F=26D.20 FF20=3A0.20 FF21=1FA2.20 FF22=1FBC.20 FF23=1FD6.20 FF24=1FEB.20",
    "FF25=2007.20 FF26=2042.20 FF27=2051.20 FF28=2075.20 FF29=2090.20 FF2A=20AB.20",
    "FF2B=20C4.20 FF2C=20D6.20 FF2D=2109.20 FF2E=2118.20 FF2F=213C.20 FF30=216B.20",
    "FF31=2180.20 FF32=2193.20 FF33=21D2.20 FF34=21F7.20 FF35=2217.20 FF36=2247.20",
    "FF37=2259.20 FF38=2264.20 FF39=2270.20 FF3A=2286.20 FF3B=32A.20 FF3C=3A7.20 FF3D=32B.20",
    "FF3E=4B7.20 FF3F=20B.20 FF40=4B4.20 FF41=1FA2.20 FF42=1FBC.20 FF43=1FD6.20 FF44=1FEB.20",
    "FF45=2007.20 FF46=2042.20 FF47=2051.20 FF48=2075.20 FF49=2090.20 FF4A=20AB.20",
    "FF4B=20C4.20 FF4C=20D6.20 FF4D=2109.20 FF4E=2118.20 FF4F=213C.20 FF50=216B.20",
    "FF51=2180.20 FF52=2193.20 FF53=21D2.20 FF54=21F7.20 FF55=2217.20 FF56=2247.20",
    "FF57=2259.20 FF58=2264.20 FF59=2270.20 FF5A=2286.20 FF5B=32C.20 FF5C=66E.20 FF5D=32D.20",
    "FF5E=670.20 FF5F-FF60=33E.20 FF61=292.20 FF62-FF63=384.20 FF64=236.20 FF65=221.20",
    "FF66=4309.20 FF67-FF69=42DA.20 FF6A-FF6B=42DE.20 FF6C-FF6E=42FE.20 FF6F=42EC.20",
    "FF70=1F60.20 FF71-FF73=42DA.20 FF74-FF9C=42DE.20 FF9D=430A.20 FF9E=0.37 FF9F=0.38",
    "FFA0=41F2.20 FFA1-FFA2=4175.20 FFA3=4253.20 FFA4=4177.20 FFA5-FFA6=4255.20",
    "FFA7-FFA9=4178.20 FFAA-FFAF=4259.20 FFB0=418F.20 FFB1-FFB3=417B.20 FFB4=4196.20",
    "FFB5-FFBE=417E.20 FFC2-FFC7=41F3.20 FFCA-FFCF=41F9.20 FFD2-FFD7=41FF.20",
    "FFDA-FFDC=4205.20 FFE0=1F63.20 FFE1=1F65.20 FFE2=66D.20 FFE3=4B8.20 FFE4=66F.20",
    "FFE5=1F66.20 FFE6=1F80.20 FFE8=86B.20 FFE9=5EC.20 FFEA=5EE.20 FFEB=5ED.20 FFEC=5EF.20",
    "FFED=909.20 FFEE=934.20 FFF9-FFFB= FFFC=1D55.20 FFFD=FFFD.20 10000-1000B=4CFC.20",
    "1000D-10026=4D08.20 10028-1003A=4D22.20 1003C-1003D=4D35.20 1003F-1004D=4D37.20",
    "10050-1005D=4D46.20 10080-100FA=4D54.20 10100-10102=30B.20 10107-1010F=1F99.20",
    "10110-10133=1DBE.20 10137-1013F=10C4.20 10140-10141=1DE2.20 10142=1F99.20 10143=1F9D.20",
    "10144-10147=1DE4.20 10148=1F9D.20 10149-1014E=1DE8.20 1014F=1F9D.20 10150-10157=1DEE.20",
    "10158=1F99.20 10159=1F99.20 1015A-1015B=1F99.20 1015C=1F9A.20 1015D=1F9A.20",
    "1015E=1F9A.20 1015F=1F9D.20 10160-10172=1DF6.20 10173=1F9D.20 10174-10178=1E09.20",
    "10179-10189=10CD.20 1018A=1F98.20 10190-1019B=10E1.20 101D0-101FC=10EF.20 101FD=0.117",
    "10280-1029C=4AC1.20 102A0-102D0=4ADE.20 10300-1030E=4B29.20 1030F-1031E=4B39.20",
    "10320=1F99.20 10321=1F9D.20 10322-10323=1DB8.20 10330-1034A=4B4C.20 10380-1039D=50FF.20",
    "1039F=30E.20 103A0-103C3=511D.20 103C8-103CF=5141.20 103D0=30F.20 103D1-103D2=1F99.20",
    "103D3-103D5=1E21.20 10400-10427=4B67.20 10428-1047F=4B67.20 10480-1049D=4C4A.20",
    "104A0-104A9=1F98.20 10800-10805=4F24.20 10808=4F2A.20 1080A-10835=4F2B.20",
    "10837-10838=4F57.20 1083C=4F59.20 1083F=4F5A.20 10840-10855=500B.20 10857=2E2.20",
    "10858-1085A=1F99.20 1085B-1085F=1E33.20 10900-10915=2634.20 10916=1F99.20",
    "10917-10919=1E30.20 1091A-1091B=1F9A.20 1091F=310.20 10920-10939=4B0F.20 1093F=30A.20",
    "10980=59D6.20,0.118 10981=59D7.20,0.118 10982=59D8.20,0.118 10983=59D9.20,0.118",
    "10984=59DA.20,0.118 10985=59DB.20,0.118 10986=59DC.20,0.118 10987=59DC.20,0.119",
    "10988=59DD.20,0.118 10989=59DE.20,0.118 1098A=59DF.20,0.118 1098B=59DF.20,0.119",
    "1098C=59E0.20,0.118 1098D=59E0.20,0.119 1098E=59E1.20,0.118 1098F=59E1.20,0.119",
    "10990=59E2.20,0.118 10991=59E3.20,0.118 10992=59E4.20,0.118 10993=59E5.20,0.119",
    "10994=59E5.20,0.11A 10995=59E6.20,0.118 10996=59E7.20,0.118 10997=59E8.20,0.118",
    "10998=59E9.20,0.118 10999=59E9.20,0.119 1099A=59EA.20,0.118 1099B=59EA.20,0.119",
    "1099C=59EB.20,0.118 1099D=59EC.20,0.118 1099E-1099F=59EF.20 109A0-109AF=59D6.20",
    "109B0=59E5.20,0.118 109B1-109B7=59E6.20 109BE-109BF=59ED.20 10A00-10A03=31AF.20",
    "10A05-10A06=31B3.20 10A0C=31B5.20 10A0D=0.34 10A0E=0.C4 10A0F=0.C5 10A10=31B6.20",
    "10A11-10A13=31B8.20 10A15-10A17=31BB.20 10A19-10A1A=31BE.20 10A1B=31C1.20",
    "10A1C-10A2C=31C3.20 10A2D-10A31=31D5.20 10A32=31B7.20 10A33=31C2.20 10A38=0.CD",
    "10A39=0.CE 10A3A=0.CF 10A3F=31DA.20 10A40-10A43=1F99.20 10A44-10A47=1E5E.20",
    "10A50-10A55=464.20 10A56-10A57=2B2.20 10A58=46A.20 10A60-10A7C=4F5B.20 10A7D=1F99.20",
    "10A7E-10A7F=1E2C.20 10B00-10B2D=4F95.20 10B2E=4FC2.20,0.118 10B2F-10B35=4FC3.20",
    "10B39=46E.20 10B3A-10B3F=2E3.20 10B40-10B55=5021.20 10B58-10B5B=1F99.20",
    "10B5C-10B5F=1E3B.20 10B60-10B72=5037.20 10B78-10B7B=1F99.20 10B7C-10B7F=1E3F.20",
    "10C00=3C8C.20 10C01=3C8C.20,0.118 10C02-10C03=3C8D.20 10C04=3C8E.20,0.118",
    "10C05-10C07=3C8F.20 10C08=3C91.20,0.118 10C09=3C92.20 10C0A=3C92.20,0.118 10C0B=3C93.20",
    "10C0C=3C93.20,0.118 10C0D=3C94.20 10C0E=3C94.20,0.118 10C0F=3C95.20 10C10=3C95.20,0.118",
    "10C11=3C96.20 10C12=3C96.20,0.118 10C13-10C14=3C97.20 10C15=3C98.20,0.118 10C16=3C99.20",
    "10C17=3C99.20,0.118 10C18=3C9A.20 10C19=3C9A.20,0.118 10C1A=3C9B.20 10C1B=3C9B.20,0.118",
    "10C1C=3C9C.20 10C1D=3C9C.20,0.118 10C1E=3C9D.20 10C1F=3C9D.20,0.118 10C20-10C24=3C9E.20",
    "10C25=3CA2.20,0.118 10C26=3CA3.20 10C27=3CA3.20,0.118 10C28=3CA4.20 10C29=3CA4.20,0.118",
    "10C2A=3CA5.20 10C2B=3CA5.20,0.118 10C2C-10C2D=3CA6.20 10C2E=3CA7.20,0.118",
    "10C2F-10C32=3CA8.20 10C33=3CAB.20,0.118 10C34=3CAC.20 10C35=3CAC.20,0.118 10C36=3CAD.20",
    "10C37=3CAD.20,0.118 10C38=3CAE.20 10C39=3CAE.20,0.118 10C3A=3CAF.20 10C3B=3CAF.20,0.118",
    "10C3C-10C3F=3CB0.20 10C40=3CB3.20,0.118 10C41=3CB4.20 10C42=3CB4.20,0.118 10C43=3CB5.20",
    "10C44=3CB5.20,0.118 10C45=3CB6.20 10C46=3CB6.20,0.118 10C47-10C48=3CB7.20",
    "10E60-10E68=1F99.20 10E69-10E7E=1DA1.20 11000=0.C3 11001=0.C4 11002=0.C5",
    "11003-11004=3199.20 11005-11033=316A.20 11034-11046=319B.20 11047-11048=2B4.20",
    "11049-1104D=45F.20 11052-1105A=1F99.20 1105B-11065=1E53.20 11066-1106F=1F98.20",
    "11080=0.C3 11081=0.C4 11082=0.C5 11083-11099=2D47.20 1109A=2D5D.20,0.C2 1109B=2D5E.20",
    "1109C=2D5E.20,0.C2 1109D-110AA=2D5F.20 110AB=2D67.20,0.C2 110AC-110B9=2D6D.20",
    "110BA=0.C2 110BB-110BC=47A.20 110BD= 110BE-110BF=2EE.20 110C0-110C1=2B6.20",
    "110D0-110E8=4CC4.20 110F0-110F9=1F98.20 11100=0.C3 11101=0.C4 11102=0.C5",
    "11103-11123=363F.20 11124-11126=3661.20 11127-11132=3665.20 11133-11134=3673.20",
    "11136-1113F=1F98.20 11140=2F0.20 11141-11142=2B8.20 11143=27A.20 11180=0.C3 11181=0.C4",
    "11182=0.C5 11183-111B2=2DA1.20 111B3-111BC=2DD5.20 111BD-111C0=2DE0.20",
    "111C1-111C3=2DD1.20 111C4=2D9F.20 111C5-111C6=2BA.20 111C7=47F.20 111C8=2F1.20",
    "111D0-111D9=1F98.20 11680-11689=2FC1.20 1168A-1168B=2FCE.20 1168C-116A6=2FD1.20",
    "116A7=2FCC.20 116A8=2FCB.20 116A9=2FCD.20 116AA=2FEC.20 116AB=0.C4 116AC=0.C5",
    "116AD-116B6=2FED.20 116B7=0.C2 116C0-116C9=1F98.20 12000-12262=5149.20",
    "12263-122D3=53AE.20 122D4-122D5=53AC.20 122D6-1236E=541F.20 12400-12407=1F9A.20",
    "12408-1240E=1F9B.20 1240F-12414=1F9C.20 12415-1241D=1F99.20 1241E-12422=1F99.20",
    "12423-12424=1F9A.20 12425-1242B=1F9B.20 1242C-1242E=1F99.20 1242F-12431=1F9B.20",
    "12432-12433=1F2C.20 12434-12436=1F99.20 12437-12439=1F9B.20 1243A=1F9B.20",
    "1243B-1243C=1F9B.20 1243D=1F9C.20 1243E=1F9C.20 1243F=1F9C.20 12440-12441=1F9E.20",
    "12442=1F9F.20 12443-12444=1F9F.20 12445-12446=1FA0.20 12447=1FA1.20 12448=1FA1.20",
    "12449=1FA1.20 1244A-1244E=1F9A.20 1244F-12452=1F99.20 12453-12454=1F9C.20 12455=1F9D.20",
    "12456-12457=1F9A.20 12458-12459=1F99.20 1245A-12462=1F2E.20 12470-12473=311.20",
    "13000-1342E=55A7.20 16800-16A38=3E16.20 16F00-16F03=491D.20 16F04-16F05=4922.20",
    "16F06=4922.20 16F07-16F0D=4924.20 16F0E-16F0F=492C.20 16F10-16F12=492F.20 16F13=492F.20",
    "16F14-16F24=4932.20 16F25=4941.20 16F26-16F32=4943.20 16F33=4951.20 16F34-16F39=4953.20",
    "16F3A-16F3E=495A.20 16F3F=495D.20 16F40-16F44=495F.20 16F50-16F53=4964.20",
    "16F54-16F58=4969.20 16F59-16F5C=496F.20 16F5D-16F60=4974.20 16F61-16F65=4979.20",
    "16F66-16F6D=497F.20 16F6E-16F72=4989.20 16F73-16F74=498F.20 16F75-16F7E=4993.20",
    "16F8F-16F9F=499D.20 1B000=42DD.20 1B001=4318.20 1D000-1D0F5=1124.20 1D100-1D126=121A.20",
    "1D129=1254.20 1D12A-1D139=1244.20 1D13A-1D15D=1255.20 1D15E-1D15F=1272.20 1D160=1273.20",
    "1D161=1273.20 1D162=1273.20 1D163=1273.20 1D164=1273.20 1D165-1D169=",
    "1D16A-1D16C=1279.20 1D16D-1D182= 1D183-1D184=127C.20 1D185-1D18B= 1D18C-1D1A9=127E.20",
    "1D1AA-1D1AD= 1D1AE-1D1BA=129C.20 1D1BB-1D1BC=12A7.20 1D1BD-1D1BE=12A7.20",
    "1D1BF-1D1DD=12A7.20 1D200-1D241=12D1.20 1D242-1D244= 1D245=1313.20 1D300-1D356=1036.20",
    "1D360-1D368=1F99.20 1D369-1D371=1F3D.20 1D400=1FA2.20 1D401=1FBC.20 1D402=1FD6.20",
    "1D403=1FEB.20 1D404=2007.20 1D405=2042.20 1D406=2051.20 1D407=2075.20 1D408=2090.20",
    "1D409=20AB.20 1D40A=20C4.20 1D40B=20D6.20 1D40C=2109.20 1D40D=2118.20 1D40E=213C.20",
    "1D40F=216B.20 1D410=2180.20 1D411=2193.20 1D412=21D2.20 1D413=21F7.20 1D414=2217.20",
    "1D415=2247.20 1D416=2259.20 1D417=2264.20 1D418=2270.20 1D419=2286.20 1D41A=1FA2.20",
    "1D41B=1FBC.20 1D41C=1FD6.20 1D41D=1FEB.20 1D41E=2007.20 1D41F=2042.20 1D420=2051.20",
    "1D421=2075.20 1D422=2090.20 1D423=20AB.20 1D424=20C4.20 1D425=20D6.20 1D426=2109.20",
    "1D427=2118.20 1D428=213C.20 1D429=216B.20 1D42A=2180.20 1D42B=2193.20 1D42C=21D2.20",
    "1D42D=21F7.20 1D42E=2217.20 1D42F=2247.20 1D430=2259.20 1D431=2264.20 1D432=2270.20",
    "1D433=2286.20 1D434=1FA2.20 1D435=1FBC.20 1D436=1FD6.20 1D437=1FEB.20 1D438=2007.20",
    "1D439=2042.20 1D43A=2051.20 1D43B=2075.20 1D43C=2090.20 1D43D=20AB.20 1D43E=20C4.20",
    "1D43F=20D6.20 1D440=2109.20 1D441=2118.20 1D442=213C.20 1D443=216B.20 1D444=2180.20",
    "1D445=2193.20 1D446=21D2.20 1D447=21F7.20 1D448=2217.20 1D449=2247.20 1D44A=2259.20",
    "1D44B=2264.20 1D44C=2270.20 1D44D=2286.20 1D44E=1FA2.20 1D44F=1FBC.20 1D450=1FD6.20",
    "1D451=1FEB.20 1D452=2007.20 1D453=2042.20 1D454=2051.20 1D456=2090.20 1D457=20AB.20",
    "1D458=20C4.20 1D459=20D6.20 1D45A=2109.20 1D45B=2118.20 1D45C=213C.20 1D45D=216B.20",
    "1D45E=2180.20 1D45F=2193.20 1D460=21D2.20 1D461=21F7.20 1D462=2217.20 1D463=2247.20",
    "1D464=2259.20 1D465=2264.20 1D466=2270.20 1D467=2286.20 1D468=1FA2.20 1D469=1FBC.20",
    "1D46A=1FD6.20 1D46B=1FEB.20 1D46C=2007.20 1D46D=2042.20 1D46E=2051.20 1D46F=2075.20",
    "1D470=2090.20 1D471=20AB.20 1D472=20C4.20 1D473=20D6.20 1D474=2109.20 1D475=2118.20",
    "1D476=213C.20 1D477=216B.20 1D478=2180.20 1D479=2193.20 1D47A=21D2.20 1D47B=21F7.20",
    "1D47C=2217.20 1D47D=2247.20 1D47E=2259.20 1D47F=2264.20 1D480=2270.20 1D481=2286.20",
    "1D482=1FA2.20 1D483=1FBC.20 1D484=1FD6.20 1D485=1FEB.20 1D486=2007.20 1D487=2042.20",
    "1D488=2051.20 1D489=2075.20 1D48A=2090.20 1D48B=20AB.20 1D48C=20C4.20 1D48D=20D6.20",
    "1D48E=2109.20 1D48F=2118.20 1D490=213C.20 1D491=216B.20 1D492=2180.20 1D493=2193.20",
    "1D494=21D2.20 1D495=21F7.20 1D496=2217.20 1D497=2247.20 1D498=2259.20 1D499=2264.20",
    "1D49A=2270.20 1D49B=2286.20 1D49C=1FA2.20 1D49E=1FD6.20 1D49F=1FEB.20 1D4A2=2051.20",
    "1D4A5=20AB.20 1D4A6=20C4.20 1D4A9=2118.20 1D4AA=213C.20 1D4AB=216B.20 1D4AC=2180.20",
    "1D4AE=21D2.20 1D4AF=21F7.20 1D4B0=2217.20 1D4B1=2247.20 1D4B2=2259.20 1D4B3=2264.20",
    "1D4B4=2270.20 1D4B5=2286.20 1D4B6=1FA2.20 1D4B7=1FBC.20 1D4B8=1FD6.20 1D4B9=1FEB.20",
    "1D4BB=2042.20 1D4BD=2075.20 1D4BE=2090.20 1D4BF=20AB.20 1D4C0=20C4.20 1D4C1=20D6.20",
    "1D4C2=2109.20 1D4C3=2118.20 1D4C5=216B.20 1D4C6=2180.20 1D4C7=2193.20 1D4C8=21D2.20",
    "1D4C9=21F7.20 1D4CA=2217.20 1D4CB=2247.20 1D4CC=2259.20 1D4CD=2264.20 1D4CE=2270.20",
    "1D4CF=2286.20 1D4D0=1FA2.20 1D4D1=1FBC.20 1D4D2=1FD6.20 1D4D3=1FEB.20 1D4D4=2007.20",
    "1D4D5=2042.20 1D4D6=2051.20 1D4D7=2075.20 1D4D8=2090.20 1D4D9=20AB.20 1D4DA=20C4.20",
    "1D4DB=20D6.20 1D4DC=2109.20 1D4DD=2118.20 1D4DE=213C.20 1D4DF=216B.20 1D4E0=2180.20",
    "1D4E1=2193.20 1D4E2=21D2.20 1D4E3=21F7.20 1D4E4=2217.20 1D4E5=2247.20 1D4E6=2259.20",
    "1D4E7=2264.20 1D4E8=2270.20 1D4E9=2286.20 1D4EA=1FA2.20 1D4EB=1FBC.20 1D4EC=1FD6.20",
    "1D4ED=1FEB.20 1D4EE=2007.20 1D4EF=2042.20 1D4F0=2051.20 1D4F1=2075.20 1D4F2=2090.20",
    "1D4F3=20AB.20 1D4F4=20C4.20 1D4F5=20D6.20 1D4F6=2109.20 1D4F7=2118.20 1D4F8=213C.20",
    "1D4F9=216B.20 1D4FA=2180.20 1D4FB=2193.20 1D4FC=21D2.20 1D4FD=21F7.20 1D4FE=2217.20",
    "1D4FF=2247.20 1D500=2259.20 1D501=2264.20 1D502=2270.20 1D503=2286.20 1D504=1FA2.20",
    "1D505=1FBC.20 1D507=1FEB.20 1D508=2007.20 1D509=2042.20 1D50A=2051.20 1D50D=20AB.20",
    "1D50E=20C4.20 1D50F=20D6.20 1D510=2109.20 1D511=2118.20 1D512=213C.20 1D513=216B.20",
    "1D514=2180.20 1D516=21D2.20 1D517=21F7.20 1D518=2217.20 1D519=2247.20 1D51A=2259.20",
    "1D51B=2264.20 1D51C=2270.20 1D51E=1FA2.20 1D51F=1FBC.20 1D520=1FD6.20 1D521=1FEB.20",
    "1D522=2007.20 1D523=2042.20 1D524=2051.20 1D525=2075.20 1D526=2090.20 1D527=20AB.20",
    "1D528=20C4.20 1D529=20D6.20 1D52A=2109.20 1D52B=2118.20 1D52C=213C.20 1D52D=216B.20",
    "1D52E=2180.20 1D52F=2193.20 1D530=21D2.20 1D531=21F7.20 1D532=2217.20 1D533=2247.20",
    "1D534=2259.20 1D535=2264.20 1D536=2270.20 1D537=2286.20 1D538=1FA2.20 1D539=1FBC.20",
    "1D53B=1FEB.20 1D53C=2007.20 1D53D=2042.20 1D53E=2051.20 1D540=2090.20 1D541=20AB.20",
    "1D542=20C4.20 1D543=20D6.20 1D544=2109.20 1D546=213C.20 1D54A=21D2.20 1D54B=21F7.20",
    "1D54C=2217.20 1D54D=2247.20 1D54E=2259.20 1D54F=2264.20 1D550=2270.20 1D552=1FA2.20",
    "1D553=1FBC.20 1D554=1FD6.20 1D555=1FEB.20 1D556=2007.20 1D557=2042.20 1D558=2051.20",
    "1D559=2075.20 1D55A=2090.20 1D55B=20AB.20 1D55C=20C4.20 1D55D=20D6.20 1D55E=2109.20",
    "1D55F=2118.20 1D560=213C.20 1D561=216B.20 1D562=2180.20 1D563=2193.20 1D564=21D2.20",
    "1D565=21F7.20 1D566=2217.20 1D567=2247.20 1D568=2259.20 1D569=2264.20 1D56A=2270.20",
    "1D56B=2286.20 1D56C=1FA2.20 1D56D=1FBC.20 1D56E=1FD6.20 1D56F=1FEB.20 1D570=2007.20",
    "1D571=2042.20 1D572=2051.20 1D573=2075.20 1D574=2090.20 1D575=20AB.20 1D576=20C4.20",
    "1D577=20D6.20 1D578=2109.20 1D579=2118.20 1D57A=213C.20 1D57B=216B.20 1D57C=2180.20",
    "1D57D=2193.20 1D57E=21D2.20 1D57F=21F7.20 1D580=2217.20 1D581=2247.20 1D582=2259.20",
    "1D583=2264.20 1D584=2270.20 1D585=2286.20 1D586=1FA2.20 1D587=1FBC.20 1D588=1FD6.20",
    "1D589=1FEB.20 1D58A=2007.20 1D58B=2042.20 1D58C=2051.20 1D58D=2075.20 1D58E=2090.20",
    "1D58F=20AB.20 1D590=20C4.20 1D591=20D6.20 1D592=2109.20 1D593=2118.20 1D594=213C.20",
    "1D595=216B.20 1D596=2180.20 1D597=2193.20 1D598=21D2.20 1D599=21F7.20 1D59A=2217.20",
    "1D59B=2247.20 1D59C=2259.20 1D59D=2264.20 1D59E=2270.20 1D59F=2286.20 1D5A0=1FA2.20",
    "1D5A1=1FBC.20 1D5A2=1FD6.20 1D5A3=1FEB.20 1D5A4=2007.20 1D5A5=2042.20 1D5A6=2051.20",
    "1D5A7=2075.20 1D5A8=2090.20 1D5A9=20AB.20 1D5AA=20C4.20 1D5AB=20D6.20 1D5AC=2109.20",
    "1D5AD=2118.20 1D5AE=213C.20 1D5AF=216B.20 1D5B0=2180.20 1D5B1=2193.20 1D5B2=21D2.20",
    "1D5B3=21F7.20 1D5B4=2217.20 1D5B5=2247.20 1D5B6=2259.20 1D5B7=2264.20 1D5B8=2270.20",
    "1D5B9=2286.20 1D5BA=1FA2.20 1D5BB=1FBC.20 1D5BC=1FD6.20 1D5BD=1FEB.20 1D5BE=2007.20",
    "1D5BF=2042.20 1D5C0=2051.20 1D5C1=2075.20 1D5C2=2090.20 1D5C3=20AB.20 1D5C4=20C4.20",
    "1D5C5=20D6.20 1D5C6=2109.20 1D5C7=2118.20 1D5C8=213C.20 1D5C9=216B.20 1D5CA=2180.20",
    "1D5CB=2193.20 1D5CC=21D2.20 1D5CD=21F7.20 1D5CE=2217.20 1D5CF=2247.20 1D5D0=2259.20",
    "1D5D1=2264.20 1D5D2=2270.20 1D5D3=2286.20 1D5D4=1FA2.20 1D5D5=1FBC.20 1D5D6=1FD6.20",
    "1D5D7=1FEB.20 1D5D8=2007.20 1D5D9=2042.20 1D5DA=2051.20 1D5DB=2075.20 1D5DC=2090.20",
    "1D5DD=20AB.20 1D5DE=20C4.20 1D5DF=20D6.20 1D5E0=2109.20 1D5E1=2118.20 1D5E2=213C.20",
    "1D5E3=216B.20 1D5E4=2180.20 1D5E5=2193.20 1D5E6=21D2.20 1D5E7=21F7.20 1D5E8=2217.20",
    "1D5E9=2247.20 1D5EA=2259.20 1D5EB=2264.20 1D5EC=2270.20 1D5ED=2286.20 1D5EE=1FA2.20",
    "1D5EF=1FBC.20 1D5F0=1FD6.20 1D5F1=1FEB.20 1D5F2=2007.20 1D5F3=2042.20 1D5F4=2051.20",
    "1D5F5=2075.20 1D5F6=2090.20 1D5F7=20AB.20 1D5F8=20C4.20 1D5F9=20D6.20 1D5FA=2109.20",
    "1D5FB=2118.20 1D5FC=213C.20 1D5FD=216B.20 1D5FE=2180.20 1D5FF=2193.20 1D600=21D2.20",
    "1D601=21F7.20 1D602=2217.20 1D603=2247.20 1D604=2259.20 1D605=2264.20 1D606=2270.20",
    "1D607=2286.20 1D608=1FA2.20 1D609=1FBC.20 1D60A=1FD6.20 1D60B=1FEB.20 1D60C=2007.20",
    "1D60D=2042.20 1D60E=2051.20 1D60F=2075.20 1D610=2090.20 1D611=20AB.20 1D612=20C4.20",
    "1D613=20D6.20 1D614=2109.20 1D615=2118.20 1D616=213C.20 1D617=216B.20 1D618=2180.20",
    "1D619=2193.20 1D61A=21D2.20 1D61B=21F7.20 1D61C=2217.20 1D61D=2247.20 1D61E=2259.20",
    "1D61F=2264.20 1D620=2270.20 1D621=2286.20 1D622=1FA2.20 1D623=1FBC.20 1D624=1FD6.20",
    "1D625=1FEB.20 1D626=2007.20 1D627=2042.20 1D628=2051.20 1D629=2075.20 1D62A=2090.20",
    "1D62B=20AB.20 1D62C=20C4.20 1D62D=20D6.20 1D62E=2109.20 1D62F=2118.20 1D630=213C.20",
    "1D631=216B.20 1D632=2180.20 1D633=2193.20 1D634=21D2.20 1D635=21F7.20 1D636=2217.20",
    "1D637=2247.20 1D638=2259.20 1D639=2264.20 1D63A=2270.20 1D63B=2286.20 1D63C=1FA2.20",
    "1D63D=1FBC.20 1D63E=1FD6.20 1D63F=1FEB.20 1D640=2007.20 1D641=2042.20 1D642=2051.20",
    "1D643=2075.20 1D644=2090.20 1D645=20AB.20 1D646=20C4.20 1D647=20D6.20 1D648=2109.20",
    "1D649=2118.20 1D64A=213C.20 1D64B=216B.20 1D64C=2180.20 1D64D=2193.20 1D64E=21D2.20",
    "1D64F=21F7.20 1D650=2217.20 1D651=2247.20 1D652=2259.20 1D653=2264.20 1D654=2270.20",
    "1D655=2286.20 1D656=1FA2.20 1D657=1FBC.20 1D658=1FD6.20 1D659=1FEB.20 1D65A=2007.20",
    "1D65B=2042.20 1D65C=2051.20 1D65D=2075.20 1D65E=2090.20 1D65F=20AB.20 1D660=20C4.20",
    "1D661=20D6.20 1D662=2109.20 1D663=2118.20 1D664=213C.20 1D665=216B.20 1D666=2180.20",
    "1D667=2193.20 1D668=21D2.20 1D669=21F7.20 1D66A=2217.20 1D66B=2247.20 1D66C=2259.20",
    "1D66D=2264.20 1D66E=2270.20 1D66F=2286.20 1D670=1FA2.20 1D671=1FBC.20 1D672=1FD6.20",
    "1D673=1FEB.20 1D674=2007.20 1D675=2042.20 1D676=2051.20 1D677=2075.20 1D678=2090.20",
    "1D679=20AB.20 1D67A=20C4.20 1D67B=20D6.20 1D67C=2109.20 1D67D=2118.20 1D67E=213C.20",
    "1D67F=216B.20 1D680=2180.20 1D681=2193.20 1D682=21D2.20 1D683=21F7.20 1D684=2217.20",
    "1D685=2247.20 1D686=2259.20 1D687=2264.20 1D688=2270.20 1D689=2286.20 1D68A=1FA2.20",
    "1D68B=1FBC.20 1D68C=1FD6.20 1D68D=1FEB.20 1D68E=2007.20 1D68F=2042.20 1D690=2051.20",
    "1D691=2075.20 1D692=2090.20 1D693=20AB.20 1D694=20C4.20 1D695=20D6.20 1D696=2109.20",
    "1D697=2118.20 1D698=213C.20 1D699=216B.20 1D69A=2180.20 1D69B=2193.20 1D69C=21D2.20",
    "1D69D=21F7.20 1D69E=2217.20 1D69F=2247.20 1D6A0=2259.20 1D6A1=2264.20 1D6A2=2270.20",
    "1D6A3=2286.20 1D6A4=2094.20 1D6A5=20AF.20 1D6A8-1D6AA=231E.20 1D6AB-1D6AC=2322.20",
    "1D6AD=2327.20 1D6AE-1D6B0=2329.20 1D6B1-1D6B2=232D.20 1D6B3-1D6B7=2330.20 1D6B8=2339.20",
    "1D6B9=232A.20 1D6BA=233C.20 1D6BB-1D6BF=2340.20 1D6C0=2346.20 1D6C1=65C.20",
    "1D6C2-1D6C4=231E.20 1D6C5-1D6C6=2322.20 1D6C7=2327.20 1D6C8-1D6CA=2329.20",
    "1D6CB-1D6CC=232D.20 1D6CD-1D6D1=2330.20 1D6D2=2339.20 1D6D3=233C.20 1D6D4=233C.20",
    "1D6D5-1D6D9=2340.20 1D6DA=2346.20 1D6DB=658.20 1D6DC=2323.20 1D6DD=232A.20",
    "1D6DE=232D.20 1D6DF=2342.20 1D6E0=2339.20 1D6E1=2334.20 1D6E2-1D6E4=231E.20",
    "1D6E5-1D6E6=2322.20 1D6E7=2327.20 1D6E8-1D6EA=2329.20 1D6EB-1D6EC=232D.20",
    "1D6ED-1D6F1=2330.20 1D6F2=2339.20 1D6F3=232A.20 1D6F4=233C.20 1D6F5-1D6F9=2340.20",
    "1D6FA=2346.20 1D6FB=65C.20 1D6FC-1D6FE=231E.20 1D6FF-1D700=2322.20 1D701=2327.20",
    "1D702-1D704=2329.20 1D705-1D706=232D.20 1D707-1D70B=2330.20 1D70C=2339.20 1D70D=233C.20",
    "1D70E=233C.20 1D70F-1D713=2340.20 1D714=2346.20 1D715=658.20 1D716=2323.20",
    "1D717=232A.20 1D718=232D.20 1D719=2342.20 1D71A=2339.20 1D71B=2334.20",
    "1D71C-1D71E=231E.20 1D71F-1D720=2322.20 1D721=2327.20 1D722-1D724=2329.20",
    "1D725-1D726=232D.20 1D727-1D72B=2330.20 1D72C=2339.20 1D72D=232A.20 1D72E=233C.20",
    "1D72F-1D733=2340.20 1D734=2346.20 1D735=65C.20 1D736-1D738=231E.20 1D739-1D73A=2322.20",
    "1D73B=2327.20 1D73C-1D73E=2329.20 1D73F-1D740=232D.20 1D741-1D745=2330.20 1D746=2339.20",
    "1D747=233C.20 1D748=233C.20 1D749-1D74D=2340.20 1D74E=2346.20 1D74F=658.20",
    "1D750=2323.20 1D751=232A.20 1D752=232D.20 1D753=2342.20 1D754=2339.20 1D755=2334.20",
    "1D756-1D758=231E.20 1D759-1D75A=2322.20 1D75B=2327.20 1D75C-1D75E=2329.20",
    "1D75F-1D760=232D.20 1D761-1D765=2330.20 1D766=2339.20 1D767=232A.20 1D768=233C.20",
    "1D769-1D76D=2340.20 1D76E=2346.20 1D76F=65C.20 1D770-1D772=231E.20 1D773-1D774=2322.20",
    "1D775=2327.20 1D776-1D778=2329.20 1D779-1D77A=232D.20 1D77B-1D77F=2330.20 1D780=2339.20",
    "1D781=233C.20 1D782=233C.20 1D783-1D787=2340.20 1D788=2346.20 1D789=658.20",
    "1D78A=2323.20 1D78B=232A.20 1D78C=232D.20 1D78D=2342.20 1D78E=2339.20 1D78F=2334.20",
    "1D790-1D792=231E.20 1D793-1D794=2322.20 1D795=2327.20 1D796-1D798=2329.20",
    "1D799-1D79A=232D.20 1D79B-1D79F=2330.20 1D7A0=2339.20 1D7A1=232A.20 1D7A2=233C.20",
    "1D7A3-1D7A7=2340.20 1D7A8=2346.20 1D7A9=65C.20 1D7AA-1D7AC=231E.20 1D7AD-1D7AE=2322.20",
    "1D7AF=2327.20 1D7B0-1D7B2=2329.20 1D7B3-1D7B4=232D.20 1D7B5-1D7B9=2330.20 1D7BA=2339.20",
    "1D7BB=233C.20 1D7BC=233C.20 1D7BD-1D7C1=2340.20 1D7C2=2346.20 1D7C3=658.20",
    "1D7C4=2323.20 1D7C5=232A.20 1D7C6=232D.20 1D7C7=2342.20 1D7C8=2339.20 1D7C9=2334.20",
    "1D7CA=2324.20 1D7CB=2324.20 1D7CE-1D7D7=1F98.20 1D7D8-1D7E1=1F98.20 1D7E2-1D7EB=1F98.20",
    "1D7EC-1D7F5=1F98.20 1D7F6-1D7FF=1F98.20 1EE00=2672.20 1EE01=2674.20 1EE02=268F.20",
    "1EE03=26A4.20 1EE05=2728.20 1EE06=26B4.20 1EE07=2699.20 1EE08=26D7.20 1EE09=2737.20",
    "1EE0A=26F6.20 1EE0B=270C.20 1EE0C=2714.20 1EE0D=2718.20 1EE0E=26C6.20 1EE0F=26DB.20",
    "1EE10=26E4.20 1EE11=26D1.20 1EE12=26F0.20 1EE13=26B3.20 1EE14=26C7.20",
    "1EE15-1EE16=2685.20 1EE17=269A.20 1EE18=26A5.20 1EE19=26D2.20 1EE1A=26D8.20",
    "1EE1B=26DC.20 1EE1C=2673.20 1EE1D=2719.20 1EE1E=26E5.20 1EE1F=26EF.20 1EE21=2674.20",
    "1EE22=268F.20 1EE24=2722.20 1EE27=2699.20 1EE29=2737.20 1EE2A=26F6.20 1EE2B=270C.20",
    "1EE2C=2714.20 1EE2D=2718.20 1EE2E=26C6.20 1EE2F=26DB.20 1EE30=26E4.20 1EE31=26D1.20",
    "1EE32=26F0.20 1EE34=26C7.20 1EE35-1EE36=2685.20 1EE37=269A.20 1EE39=26D2.20",
    "1EE3B=26DC.20 1EE42=268F.20 1EE47=2699.20 1EE49=2737.20 1EE4B=270C.20 1EE4D=2718.20",
    "1EE4E=26C6.20 1EE4F=26DB.20 1EE51=26D1.20 1EE52=26F0.20 1EE54=26C7.20 1EE57=269A.20",
    "1EE59=26D2.20 1EE5B=26DC.20 1EE5D=2719.20 1EE5F=26EF.20 1EE61=2674.20 1EE62=268F.20",
    "1EE64=2722.20 1EE67=2699.20 1EE68=26D7.20 1EE69=2737.20 1EE6A=26F6.20 1EE6C=2714.20",
    "1EE6D=2718.20 1EE6E=26C6.20 1EE6F=26DB.20 1EE70=26E4.20 1EE71=26D1.20 1EE72=26F0.20",
    "1EE74=26C7.20 1EE75-1EE76=2685.20 1EE77=269A.20 1EE79=26D2.20 1EE7A=26D8.20",
    "1EE7B=26DC.20 1EE7C=2673.20 1EE7E=26E5.20 1EE80=2672.20 1EE81=2674.20 1EE82=268F.20",
    "1EE83=26A4.20 1EE84=2722.20 1EE85=2728.20 1EE86=26B4.20 1EE87=2699.20 1EE88=26D7.20",
    "1EE89=2737.20 1EE8B=270C.20 1EE8C=2714.20 1EE8D=2718.20 1EE8E=26C6.20 1EE8F=26DB.20",
    "1EE90=26E4.20 1EE91=26D1.20 1EE92=26F0.20 1EE93=26B3.20 1EE94=26C7.20",
    "1EE95-1EE96=2685.20 1EE97=269A.20 1EE98=26A5.20 1EE99=26D2.20 1EE9A=26D8.20",
    "1EE9B=26DC.20 1EEA1=2674.20 1EEA2=268F.20 1EEA3=26A4.20 1EEA5=2728.20 1EEA6=26B4.20",
    "1EEA7=2699.20 1EEA8=26D7.20 1EEA9=2737.20 1EEAB=270C.20 1EEAC=2714.20 1EEAD=2718.20",
    "1EEAE=26C6.20 1EEAF=26DB.20 1EEB0=26E4.20 1EEB1=26D1.20 1EEB2=26F0.20 1EEB3=26B3.20",
    "1EEB4=26C7.20 1EEB5-1EEB6=2685.20 1EEB7=269A.20 1EEB8=26A5.20 1EEB9=26D2.20",
    "1EEBA=26D8.20 1EEBB=26DC.20 1EEF0-1EEF1=52F.20 1F000-1F02B=1317.20 1F030-1F093=1343.20",
    "1F0A0-1F0AE=13A7.20 1F0B1-1F0BE=13B6.20 1F0C1-1F0CF=13C5.20 1F0D1-1F0DF=13D4.20",
    "1F100=1F98.20,27E.20 1F101=1F98.20,223.20 1F102=1F99.20,223.20 1F103=1F9A.20,223.20",
    "1F104=1F9B.20,223.20 1F105=1F9C.20,223.20 1F106=1F9D.20,223.20 1F107=1F9E.20,223.20",
    "1F108=1F9F.20,223.20 1F109=1FA0.20,223.20 1F10A=1FA1.20,223.20",
    "1F110=328.20,1FA2.20,329.20 1F111=328.20,1FBC.20,329.20 1F112=328.20,1FD6.20,329.20",
    "1F113=328.20,1FEB.20,329.20 1F114=328.20,2007.20,329.20 1F115=328.20,2042.20,329.20",
    "1F116=328.20,2051.20,329.20 1F117=328.20,2075.20,329.20 1F118=328.20,2090.20,329.20",
    "1F119=328.20,20AB.20,329.20 1F11A=328.20,20C4.20,329.20 1F11B=328.20,20D6.20,329.20",
    "1F11C=328.20,2109.20,329.20 1F11D=328.20,2118.20,329.20 1F11E=328.20,213C.20,329.20",
    "1F11F=328.20,216B.20,329.20 1F120=328.20,2180.20,329.20 1F121=328.20,2193.20,329.20",
    "1F122=328.20,21D2.20,329.20 1F123=328.20,21F7.20,329.20 1F124=328.20,2217.20,329.20",
    "1F125=328.20,2247.20,329.20 1F126=328.20,2259.20,329.20 1F127=328.20,2264.20,329.20",
    "1F128=328.20,2270.20,329.20 1F129=328.20,2286.20,329.20 1F12A=38A.20,21D2.20,38B.20",
    "1F12B=1FD6.20 1F12C=2193.20 1F12D=1FD6.20,1FEB.20 1F12E=2259.20,2286.20 1F130=1FA2.20",
    "1F131=1FBC.20 1F132=1FD6.20 1F133=1FEB.20 1F134=2007.20 1F135=2042.20 1F136=2051.20",
    "1F137=2075.20 1F138=2090.20 1F139=20AB.20 1F13A=20C4.20 1F13B=20D6.20 1F13C=2109.20",
    "1F13D=2118.20 1F13E=213C.20 1F13F=216B.20 1F140=2180.20 1F141=2193.20 1F142=21D2.20",
    "1F143=21F7.20 1F144=2217.20 1F145=2247.20 1F146=2259.20 1F147=2264.20 1F148=2270.20",
    "1F149=2286.20 1F14A=2075.20,2247.20 1F14B=2109.20,2247.20 1F14C=21D2.20,1FEB.20",
    "1F14D=21D2.20,21D2.20 1F14E=216B.20,216B.20,2247.20 1F14F=2259.20,1FD6.20 1F150=1FA2.20",
    "1F151=1FBC.20 1F152=1FD6.20 1F153=1FEB.20 1F154=2007.20 1F155=2042.20 1F156=2051.20",
    "1F157=2075.20 1F158=2090.20 1F159=20AB.20 1F15A=20C4.20 1F15B=20D6.20 1F15C=2109.20",
    "1F15D=2118.20 1F15E=213C.20 1F15F=216B.20 1F160=2180.20 1F161=2193.20 1F162=21D2.20",
    "1F163=21F7.20 1F164=2217.20 1F165=2247.20 1F166=2259.20 1F167=2264.20 1F168=2270.20",
    "1F169=2286.20 1F16A=2109.20,1FD6.20 1F16B=2109.20,1FEB.20 1F170=1FA2.20 1F171=1FBC.20",
    "1F172=1FD6.20 1F173=1FEB.20 1F174=2007.20 1F175=2042.20 1F176=2051.20 1F177=2075.20",
    "1F178=2090.20 1F179=20AB.20 1F17A=20C4.20 1F17B=20D6.20 1F17C=2109.20 1F17D=2118.20",
    "1F17E=213C.20 1F17F=216B.20 1F180=2180.20 1F181=2193.20 1F182=21D2.20 1F183=21F7.20",
    "1F184=2217.20 1F185=2247.20 1F186=2259.20 1F187=2264.20 1F188=2270.20 1F189=2286.20",
    "1F18A=216B.20 1F18B=2090.20,1FD6.20 1F18C=216B.20,1FA2.20 1F18D=21D2.20,1FA2.20",
    "1F18E=1FA2.20,1FBC.20 1F18F=2259.20,1FD6.20 1F190=1FEB.20,20AB.20 1F191=1FD6.20,20D6.20",
    "1F192=1FD6.20,213C.20,213C.20,20D6.20 1F193=2042.20,2193.20,2007.20,2007.20",
    "1F194=2090.20,1FEB.20 1F195=2118.20,2007.20,2259.20 1F196=2118.20,2051.20",
    "1F197=213C.20,20C4.20 1F198=21D2.20,213C.20,21D2.20 1F199=2217.20,216B.20,267.20",
    "1F19A=2247.20,21D2.20 1F1E6-1F1FF=B22.20 1F200=42F8.20,42E0.20 1F201=42E4.20,42E4.20",
    "1F202=42E5.20 1F210=1624B.20 1F211=15B57.20 1F212=153CC.20 1F213=42ED.20,0.37",
    "1F214=14E8C.20 1F215=1591A.20 1F216=189E3.20 1F217=15929.20 1F218=14EA4.20",
    "1F219=16620.20 1F21A=17121.20 1F21B=16599.20 1F21C=1524D.20 1F21D=15F8C.20",
    "1F21E=1518D.20 1F21F=165B0.20 1F220=1521D.20 1F221=17D42.20 1F222=1751F.20",
    "1F223=18CA9.20 1F224=158F0.20 1F225=15439.20 1F226=16F14.20 1F227=16295.20",
    "1F228=16355.20 1F229=14E00.20 1F22A=14E09.20 1F22B=1904A.20 1F22C=15DE6.20",
    "1F22D=14E2D.20 1F22E=153F3.20 1F22F=16307.20 1F230=18D70.20 1F231=16253.20",
    "1F232=17981.20 1F233=17A7A.20 1F234=15408.20 1F235=16E80.20 1F236=16709.20",
    "1F237=16708.20 1F238=17533.20 1F239=15272.20 1F23A=155B6.20",
    "1F240=38A.20,1672C.20,38B.20 1F241=38A.20,14E09.20,38B.20 1F242=38A.20,14E8C.20,38B.20",
    "1F243=38A.20,15B89.20,38B.20 1F244=38A.20,170B9.20,38B.20 1F245=38A.20,16253.20,38B.20",
    "1F246=38A.20,176D7.20,38B.20 1F247=38A.20,152DD.20,38B.20 1F248=38A.20,16557.20,38B.20",
    "1F250=15F97.20 1F251=153EF.20 1F300-1F320=1467.20 1F330-1F335=1497.20",
    "1F337-1F37C=149E.20 1F380-1F393=14E7.20 1F3A0-1F3C4=1507.20 1F3C6-1F3CA=152D.20",
    "1F3E0-1F3F0=1547.20 1F400-1F43E=1567.20 1F440=15A7.20 1F442-1F4F7=15A9.20",
    "1F4F9-1F4FC=1660.20 1F500-1F53D=1667.20 1F540-1F543=16A7.20 1F550-1F567=16B7.20",
    "1F5FB-1F5FF=1762.20 1F600-1F640=189E.20 1F645-1F64F=18E3.20 1F680-1F6C5=191E.20",
    "1F700-1F773=1990.20 2F800=14E3D.20 2F801=14E38.20 2F802=14E41.20 2F803=40122.20",
    "2F804=14F60.20 2F805=14FAE.20 2F806=14FBB.20 2F807=15002.20 2F808=1507A.20",
    "2F809=15099.20 2F80A=150E7.20 2F80B=150CF.20 2F80C=2349E.20 2F80D=4063A.20",
    "2F80E=1514D.20 2F80F=15154.20 2F810=15164.20 2F811=15177.20 2F812=4051C.20",
    "2F813=234B9.20 2F814=15167.20 2F815=1518D.20 2F816=4054B.20 2F817=15197.20",
    "2F818=151A4.20 2F819=14ECC.20 2F81A=151AC.20 2F81B=151B5.20 2F81C=491DF.20",
    "2F81D=151F5.20 2F81E=15203.20 2F81F=234DF.20 2F820=1523B.20 2F821=15246.20",
    "2F822=15272.20 2F823=15277.20 2F824=23515.20 2F825=152C7.20 2F826=152C9.20",
    "2F827=152E4.20 2F828=152FA.20 2F829-2F82A=15305.20 2F82B=15317.20 2F82C=15349.20",
    "2F82D=15351.20 2F82E=1535A.20 2F82F=15373.20 2F830=1537D.20 2F831=1537F.20",
    "2F832=1537F.20 2F833=1537F.20 2F834=40A2C.20 2F835=17070.20 2F836=153CA.20",
    "2F837=153DF.20 2F838=40B63.20 2F839=153EB.20 2F83A=153F1.20 2F83B=15406.20",
    "2F83C=1549E.20 2F83D=15438.20 2F83E=15448.20 2F83F=15468.20 2F840=154A2.20",
    "2F841=154F6.20 2F842=15510.20 2F843=15553.20 2F844=15563.20 2F845=15584.20",
    "2F846=15584.20 2F847=15599.20 2F848=155AB.20 2F849=155B3.20 2F84A=155C2.20",
    "2F84B=15716.20 2F84C=15606.20 2F84D=15717.20 2F84E=15651.20 2F84F=15674.20",
    "2F850=15207.20 2F851=158EE.20 2F852=157CE.20 2F853=157F4.20 2F854=1580D.20",
    "2F855=1578B.20 2F856=15832.20 2F857=15831.20 2F858=158AC.20 2F859=414E4.20",
    "2F85A=158F2.20 2F85B=158F7.20 2F85C=15906.20 2F85D=1591A.20 2F85E=15922.20",
    "2F85F=15962.20 2F860=416A8.20 2F861=416EA.20 2F862=159EC.20 2F863=15A1B.20",
    "2F864=15A27.20 2F865=159D8.20 2F866=15A66.20 2F867=236EE.20 2F868=236FC.20",
    "2F869=15B08.20 2F86A=15B3E.20 2F86B=15B3E.20 2F86C=419C8.20 2F86D=15BC3.20",
    "2F86E=15BD8.20 2F86F=15BE7.20 2F870=15BF3.20 2F871=41B18.20 2F872=15BFF.20",
    "2F873=15C06.20 2F874=15F53.20 2F875=15C22.20 2F876=23781.20 2F877=15C60.20",
    "2F878=15C6E.20 2F879=15CC0.20 2F87A=15C8D.20 2F87B=41DE4.20 2F87C=15D43.20",
    "2F87D=41DE6.20 2F87E=15D6E.20 2F87F=15D6B.20 2F880=15D7C.20 2F881-2F882=15DE1.20",
    "2F883=2382F.20 2F884=15DFD.20 2F885=15E28.20 2F886=15E3D.20 2F887=15E69.20",
    "2F888=23862.20 2F889=42183.20 2F88A=2387C.20 2F88B=15EB0.20 2F88C=15EB3.20",
    "2F88D=15EB6.20 2F88E=15ECA.20 2F88F=4A392.20 2F890=15EFE.20 2F891=42331.20",
    "2F892=42331.20 2F893=18201.20 2F894=15F22.20 2F895=15F22.20 2F896=238C7.20",
    "2F897=432B8.20 2F898=461DA.20 2F899=15F62.20 2F89A=15F6B.20 2F89B=238E3.20",
    "2F89C=15F9A.20 2F89D=15FCD.20 2F89E=15FD7.20 2F89F=15FF9.20 2F8A0=16081.20",
    "2F8A1=2393A.20 2F8A2=2391C.20 2F8A3=16094.20 2F8A4=426D4.20 2F8A5=160C7.20",
    "2F8A6=16148.20 2F8A7=1614C.20 2F8A8=1614E.20 2F8A9=1614C.20 2F8AA=1617A.20",
    "2F8AB=1618E.20 2F8AC=161B2.20 2F8AD=161A4.20 2F8AE=161AF.20 2F8AF=161DE.20",
    "2F8B0=161F2.20 2F8B1=161F6.20 2F8B2=16210.20 2F8B3=1621B.20 2F8B4=1625D.20",
    "2F8B5=162B1.20 2F8B6=162D4.20 2F8B7=16350.20 2F8B8=42B0C.20 2F8B9=1633D.20",
    "2F8BA=162FC.20 2F8BB=16368.20 2F8BC=16383.20 2F8BD=163E4.20 2F8BE=42BF1.20",
    "2F8BF=16422.20 2F8C0=163C5.20 2F8C1=163A9.20 2F8C2=23A2E.20 2F8C3=16469.20",
    "2F8C4=1647E.20 2F8C5=1649D.20 2F8C6=16477.20 2F8C7=23A6C.20 2F8C8=1654F.20",
    "2F8C9=1656C.20 2F8CA=4300A.20 2F8CB=165E3.20 2F8CC=166F8.20 2F8CD=16649.20",
    "2F8CE=23B19.20 2F8CF=16691.20 2F8D0=23B08.20 2F8D1=23AE4.20 2F8D2=15192.20",
    "2F8D3=15195.20 2F8D4=16700.20 2F8D5=1669C.20 2F8D6=180AD.20 2F8D7=243D9.20",
    "2F8D8=16717.20 2F8D9=1671B.20 2F8DA=16721.20 2F8DB=1675E.20 2F8DC=16753.20",
    "2F8DD=433C3.20 2F8DE=23B49.20 2F8DF=167FA.20 2F8E0=16785.20 2F8E1=16852.20",
    "2F8E2=16885.20 2F8E3=4346D.20 2F8E4=1688E.20 2F8E5=1681F.20 2F8E6=16914.20",
    "2F8E7=23B9D.20 2F8E8=16942.20 2F8E9=169A3.20 2F8EA=169EA.20 2F8EB=16AA8.20",
    "2F8EC=436A3.20 2F8ED=16ADB.20 2F8EE=23C18.20 2F8EF=16B21.20 2F8F0=438A7.20",
    "2F8F1=16B54.20 2F8F2=23C4E.20 2F8F3=16B72.20 2F8F4=16B9F.20 2F8F5-2F8F6=16BBA.20",
    "2F8F7=43A8D.20 2F8F8=41D0B.20 2F8F9=43AFA.20 2F8FA=16C4E.20 2F8FB=43CBC.20",
    "2F8FC=16CBF.20 2F8FD=16CCD.20 2F8FE=16C67.20 2F8FF=16D16.20 2F900=16D3E.20",
    "2F901=16D77.20 2F902=16D41.20 2F903=16D69.20 2F904=16D78.20 2F905=16D85.20",
    "2F906=43D1E.20 2F907=16D34.20 2F908=16E2F.20 2F909=16E6E.20 2F90A=23D33.20",
    "2F90B=16ECB.20 2F90C=16EC7.20 2F90D=43ED1.20 2F90E=16DF9.20 2F90F=16F6E.20",
    "2F910=43F5E.20 2F911=43F8E.20 2F912=16FC6.20 2F913=17039.20 2F914=1701E.20",
    "2F915=1701B.20 2F916=23D96.20 2F917=1704A.20 2F918=1707D.20 2F919=17077.20",
    "2F91A=170AD.20 2F91B=40525.20 2F91C=17145.20 2F91D=44263.20 2F91E=1719C.20",
    "2F91F=443AB.20 2F920=17228.20 2F921=17235.20 2F922=17250.20 2F923=44608.20",
    "2F924=17280.20 2F925=17295.20 2F926=44735.20 2F927=44814.20 2F928=1737A.20",
    "2F929=1738B.20 2F92A=23EAC.20 2F92B=173A5.20 2F92C=23EB8.20 2F92D=23EB8.20",
    "2F92E=17447.20 2F92F=1745C.20 2F930=17471.20 2F931=17485.20 2F932=174CA.20",
    "2F933=23F1B.20 2F934=17524.20 2F935=44C36.20 2F936=1753E.20 2F937=44C92.20",
    "2F938=17570.20 2F939=4219F.20 2F93A=17610.20 2F93B=44FA1.20 2F93C=44FB8.20",
    "2F93D=45044.20 2F93E=23FFC.20 2F93F=24008.20 2F940=176F4.20 2F941=450F3.20",
    "2F942=450F2.20 2F943=45119.20 2F944=45133.20 2F945-2F946=1771E.20 2F947=1771F.20",
    "2F948=1774A.20 2F949=24039.20 2F94A=1778B.20 2F94B=24046.20 2F94C=24096.20",
    "2F94D=4541D.20 2F94E=1784E.20 2F94F=1788C.20 2F950=178CC.20 2F951=240E3.20",
    "2F952=45626.20 2F953=17956.20 2F954=4569A.20 2F955=456C5.20 2F956=1798F.20",
    "2F957=179EB.20 2F958=2412F.20 2F959=17A40.20 2F95A=17A4A.20 2F95B=17A4F.20",
    "2F95C=4597C.20 2F95D=45AA7.20 2F95E=45AA7.20 2F95F=17AEE.20 2F960=24202.20",
    "2F961=45BAB.20 2F962=17BC6.20 2F963=17BC9.20 2F964=24227.20 2F965=45C80.20",
    "2F966=17CD2.20 2F967=242A0.20 2F968=17CE8.20 2F969=17CE3.20 2F96A=17D00.20",
    "2F96B=45F86.20 2F96C=17D63.20 2F96D=24301.20 2F96E=17DC7.20 2F96F=17E02.20",
    "2F970=17E45.20 2F971=24334.20 2F972=46228.20 2F973=46247.20 2F974=24359.20",
    "2F975=462D9.20 2F976=17F7A.20 2F977=4633E.20 2F978=17F95.20 2F979=17FFA.20",
    "2F97A=18005.20 2F97B=464DA.20 2F97C=46523.20 2F97D=18060.20 2F97E=465A8.20",
    "2F97F=18070.20 2F980=4335F.20 2F981=243D5.20 2F982=180B2.20 2F983=18103.20",
    "2F984=2440B.20 2F985=1813E.20 2F986=15AB5.20 2F987=467A7.20 2F988=467B5.20",
    "2F989=43393.20 2F98A=4339C.20 2F98B=18201.20 2F98C=18204.20 2F98D=18F9E.20",
    "2F98E=2446B.20 2F98F=18291.20 2F990=1828B.20 2F991=1829D.20 2F992=152B3.20",
    "2F993=182B1.20 2F994=182B3.20 2F995=182BD.20 2F996=182E6.20 2F997=46B3C.20",
    "2F998=182E5.20 2F999=1831D.20 2F99A=18363.20 2F99B=183AD.20 2F99C=18323.20",
    "2F99D=183BD.20 2F99E=183E7.20 2F99F=18457.20 2F9A0=18353.20 2F9A1=183CA.20",
    "2F9A2=183CC.20 2F9A3=183DC.20 2F9A4=46C36.20 2F9A5=46D6B.20 2F9A6=46CD5.20",
    "2F9A7=2452B.20 2F9A8=184F1.20 2F9A9=184F3.20 2F9AA=18516.20 2F9AB=473CA.20",
    "2F9AC=18564.20 2F9AD=46F2C.20 2F9AE=2455D.20 2F9AF=24561.20 2F9B0=46FB1.20",
    "2F9B1=470D2.20 2F9B2=2456B.20 2F9B3=18650.20 2F9B4=1865C.20 2F9B5=18667.20",
    "2F9B6=18669.20 2F9B7=186A9.20 2F9B8=18688.20 2F9B9=1870E.20 2F9BA=186E2.20",
    "2F9BB=18779.20 2F9BC=18728.20 2F9BD=1876B.20 2F9BE=18786.20 2F9BF=245D7.20",
    "2F9C0=187E1.20 2F9C1=18801.20 2F9C2=245F9.20 2F9C3=18860.20 2F9C4=18863.20",
    "2F9C5=47667.20 2F9C6=188D7.20 2F9C7=188DE.20 2F9C8=24635.20 2F9C9=188FA.20",
    "2F9CA=234BB.20 2F9CB=478AE.20 2F9CC=47966.20 2F9CD=246BE.20 2F9CE=246C7.20",
    "2F9CF=18AA0.20 2F9D0=18AED.20 2F9D1=18B8A.20 2F9D2=18C55.20 2F9D3=47CA8.20",
    "2F9D4=18CAB.20 2F9D5=18CC1.20 2F9D6=18D1B.20 2F9D7=18D77.20 2F9D8=47F2F.20",
    "2F9D9=40804.20 2F9DA=18DCB.20 2F9DB=18DBC.20 2F9DC=18DF0.20 2F9DD=408DE.20",
    "2F9DE=18ED4.20 2F9DF=18F38.20 2F9E0=485D2.20 2F9E1=485ED.20 2F9E2=19094.20",
    "2F9E3=190F1.20 2F9E4=19111.20 2F9E5=4872E.20 2F9E6=1911B.20 2F9E7=19238.20",
    "2F9E8-2F9E9=192D7.20 2F9EA=1927C.20 2F9EB=193F9.20 2F9EC=19415.20 2F9ED=48BFA.20",
    "2F9EE=1958B.20 2F9EF=24995.20 2F9F0=195B7.20 2F9F1=48D77.20 2F9F2=249E6.20",
    "2F9F3=196C3.20 2F9F4=15DB2.20 2F9F5=19723.20 2F9F6=49145.20 2F9F7=4921A.20",
    "2F9F8=24A6E.20 2F9F9=24A76.20 2F9FA=197E0.20 2F9FB=4940A.20 2F9FC=24AB2.20",
    "2F9FD=49496.20 2F9FE=1980B.20 2F9FF=1980B.20 2FA00=19829.20 2FA01=495B6.20",
    "2FA02=198E2.20 2FA03=24B33.20 2FA04=19929.20 2FA05=199A7.20 2FA06=199C2.20",
    "2FA07=199FE.20 2FA08=24BCE.20 2FA09=49B30.20 2FA0A=19B12.20 2FA0B=19C40.20",
    "2FA0C=19CFD.20 2FA0D=24CCE.20 2FA0E=24CED.20 2FA0F=19D67.20 2FA10=4A0CE.20",
    "2FA11=24CF8.20 2FA12=4A105.20 2FA13=4A20E.20 2FA14=4A291.20 2FA15=19EBB.20",
    "2FA16=24D56.20 2FA17=19EF9.20 2FA18=19EFE.20 2FA19=19F05.20 2FA1A=19F0F.20",
    "2FA1B=19F16.20 2FA1C=19F3B.20 2FA1D=4A600.20 E0001= E0020-E007F= E0100-E01EF="]

/-- The weights of the sequences that collate as one, sorted. -/
def contractionText : String :=
  " ".intercalate [
    "4C+B7=20D6.20,0.118 4C+387=20D6.20,0.118 6C+B7=20D6.20,0.118 6C+387=20D6.20,0.118",
    "418+306=23F2.20 438+306=23F2.20 627+653=2665.20 627+654=2666.20 627+655=266A.20",
    "648+654=2669.20 64A+654=266E.20 9C7+9BE=2A7A.20 9C7+9D7=2A7B.20 B47+B3E=2B3B.20",
    "B47+B56=2B3A.20 B47+B57=2B3C.20 B92+BD7=2B4C.20 BC6+BBE=2B6D.20 BC6+BD7=2B6F.20",
    "BC7+BBE=2B6E.20 C46+C56=2BB5.20 CBF+CD5=2BF6.20 CC6+CC2=2C00.20 CC6+CC2+CD5=2C01.20",
    "CC6+CD5=2BFE.20 CC6+CD6=2BFF.20 CCA+CD5=2C01.20 D46+D3E=2C4B.20 D46+D57=2C4D.20",
    "D47+D3E=2C4C.20 DD9+DCA=2C97.20 DD9+DCF=2C99.20 DD9+DCF+DCA=2C9A.20 DD9+DDF=2C9B.20",
    "DDC+DCA=2C9A.20 E40+E01=3217.20,3251.20 E40+E02=3218.20,3251.20 E40+E03=3219.20,3251.20",
    "E40+E04=321A.20,3251.20 E40+E05=321B.20,3251.20 E40+E06=321C.20,3251.20",
    "E40+E07=321D.20,3251.20 E40+E08=321E.20,3251.20 E40+E09=321F.20,3251.20",
    "E40+E0A=3220.20,3251.20 E40+E0B=3221.20,3251.20 E40+E0C=3222.20,3251.20",
    "E40+E0D=3223.20,3251.20 E40+E0E=3224.20,3251.20 E40+E0F=3225.20,3251.20",
    "E40+E10=3226.20,3251.20 E40+E11=3227.20,3251.20 E40+E12=3228.20,3251.20",
    "E40+E13=3229.20,3251.20 E40+E14=322A.20,3251.20 E40+E15=322B.20,3251.20",
    "E40+E16=322C.20,3251.20 E40+E17=322D.20,3251.20 E40+E18=322E.20,3251.20",
    "E40+E19=322F.20,3251.20 E40+E1A=3230.20,3251.20 E40+E1B=3231.20,3251.20",
    "E40+E1C=3232.20,3251.20 E40+E1D=3233.20,3251.20 E40+E1E=3234.20,3251.20",
    "E40+E1F=3235.20,3251.20 E40+E20=3236.20,3251.20 E40+E21=3237.20,3251.20",
    "E40+E22=3238.20,3251.20 E40+E23=3239.20,3251.20 E40+E24=323A.20,3251.20",
    "E40+E25=323B.20,3251.20 E40+E26=323C.20,3251.20 E40+E27=323D.20,3251.20",
    "E40+E28=323E.20,3251.20 E40+E29=323F.20,3251.20 E40+E2A=3240.20,3251.20",
    "E40+E2B=3241.20,3251.20 E40+E2C=3242.20,3251.20 E40+E2D=3243.20,3251.20",
    "E40+E2E=3244.20,3251.20 E41+E01=3217.20,3252.20 E41+E02=3218.20,3252.20",
    "E41+E03=3219.20,3252.20 E41+E04=321A.20,3252.20 E41+E05=321B.20,3252.20",
    "E41+E06=321C.20,3252.20 E41+E07=321D.20,3252.20 E41+E08=321E.20,3252.20",
    "E41+E09=321F.20,3252.20 E41+E0A=3220.20,3252.20 E41+E0B=3221.20,3252.20",
    "E41+E0C=3222.20,3252.20 E41+E0D=3223.20,3252.20 E41+E0E=3224.20,3252.20",
    "E41+E0F=3225.20,3252.20 E41+E10=3226.20,3252.20 E41+E11=3227.20,3252.20",
    "E41+E12=3228.20,3252.20 E41+E13=3229.20,3252.20 E41+E14=322A.20,3252.20",
    "E41+E15=322B.20,3252.20 E41+E16=322C.20,3252.20 E41+E17=322D.20,3252.20",
    "E41+E18=322E.20,3252.20 E41+E19=322F.20,3252.20 E41+E1A=3230.20,3252.20",
    "E41+E1B=3231.20,3252.20 E41+E1C=3232.20,3252.20 E41+E1D=3233.20,3252.20",
    "E41+E1E=3234.20,3252.20 E41+E1F=3235.20,3252.20 E41+E20=3236.20,3252.20",
    "E41+E21=3237.20,3252.20 E41+E22=3238.20,3252.20 E41+E23=3239.20,3252.20",
    "E41+E24=323A.20,3252.20 E41+E25=323B.20,3252.20 E41+E26=323C.20,3252.20",
    "E41+E27=323D.20,3252.20 E41+E28=323E.20,3252.20 E41+E29=323F.20,3252.20",
    "E41+E2A=3240.20,3252.20 E41+E2B=3241.20,3252.20 E41+E2C=3242.20,3252.20",
    "E41+E2D=3243.20,3252.20 E41+E2E=3244.20,3252.20 E42+E01=3217.20,3253.20",
    "E42+E02=3218.20,3253.20 E42+E03=3219.20,3253.20 E42+E04=321A.20,3253.20",
    "E42+E05=321B.20,3253.20 E42+E06=321C.20,3253.20 E42+E07=321D.20,3253.20",
    "E42+E08=321E.20,3253.20 E42+E09=321F.20,3253.20 E42+E0A=3220.20,3253.20",
    "E42+E0B=3221.20,3253.20 E42+E0C=3222.20,3253.20 E42+E0D=3223.20,3253.20",
    "E42+E0E=3224.20,3253.20 E42+E0F=3225.20,3253.20 E42+E10=3226.20,3253.20",
    "E42+E11=3227.20,3253.20 E42+E12=3228.20,3253.20 E42+E13=3229.20,3253.20",
    "E42+E14=322A.20,3253.20 E42+E15=322B.20,3253.20 E42+E16=322C.20,3253.20",
    "E42+E17=322D.20,3253.20 E42+E18=322E.20,3253.20 E42+E19=322F.20,3253.20",
    "E42+E1A=3230.20,3253.20 E42+E1B=3231.20,3253.20 E42+E1C=3232.20,3253.20",
    "E42+E1D=3233.20,3253.20 E42+E1E=3234.20,3253.20 E42+E1F=3235.20,3253.20",
    "E42+E20=3236.20,3253.20 E42+E21=3237.20,3253.20 E42+E22=3238.20,3253.20",
    "E42+E23=3239.20,3253.20 E42+E24=323A.20,3253.20 E42+E25=323B.20,3253.20",
    "E42+E26=323C.20,3253.20 E42+E27=323D.20,3253.20 E42+E28=323E.20,3253.20",
    "E42+E29=323F.20,3253.20 E42+E2A=3240.20,3253.20 E42+E2B=3241.20,3253.20",
    "E42+E2C=3242.20,3253.20 E42+E2D=3243.20,3253.20 E42+E2E=3244.20,3253.20",
    "E43+E01=3217.20,3254.20 E43+E02=3218.20,3254.20 E43+E03=3219.20,3254.20",
    "E43+E04=321A.20,3254.20 E43+E05=321B.20,3254.20 E43+E06=321C.20,3254.20",
    "E43+E07=321D.20,3254.20 E43+E08=321E.20,3254.20 E43+E09=321F.20,3254.20",
    "E43+E0A=3220.20,3254.20 E43+E0B=3221.20,3254.20 E43+E0C=3222.20,3254.20",
    "E43+E0D=3223.20,3254.20 E43+E0E=3224.20,3254.20 E43+E0F=3225.20,3254.20",
    "E43+E10=3226.20,3254.20 E43+E11=3227.20,3254.20 E43+E12=3228.20,3254.20",
    "E43+E13=3229.20,3254.20 E43+E14=322A.20,3254.20 E43+E15=322B.20,3254.20",
    "E43+E16=322C.20,3254.20 E43+E17=322D.20,3254.20 E43+E18=322E.20,3254.20",
    "E43+E19=322F.20,3254.20 E43+E1A=3230.20,3254.20 E43+E1B=3231.20,3254.20",
    "E43+E1C=3232.20,3254.20 E43+E1D=3233.20,3254.20 E43+E1E=3234.20,3254.20",
    "E43+E1F=3235.20,3254.20 E43+E20=3236.20,3254.20 E43+E21=3237.20,3254.20",
    "E43+E22=3238.20,3254.20 E43+E23=3239.20,3254.20 E43+E24=323A.20,3254.20",
    "E43+E25=323B.20,3254.20 E43+E26=323C.20,3254.20 E43+E27=323D.20,3254.20",
    "E43+E28=323E.20,3254.20 E43+E29=323F.20,3254.20 E43+E2A=3240.20,3254.20",
    "E43+E2B=3241.20,3254.20 E43+E2C=3242.20,3254.20 E43+E2D=3243.20,3254.20",
    "E43+E2E=3244.20,3254.20 E44+E01=3217.20,3255.20 E44+E02=3218.20,3255.20",
    "E44+E03=3219.20,3255.20 E44+E04=321A.20,3255.20 E44+E05=321B.20,3255.20",
    "E44+E06=321C.20,3255.20 E44+E07=321D.20,3255.20 E44+E08=321E.20,3255.20",
    "E44+E09=321F.20,3255.20 E44+E0A=3220.20,3255.20 E44+E0B=3221.20,3255.20",
    "E44+E0C=3222.20,3255.20 E44+E0D=3223.20,3255.20 E44+E0E=3224.20,3255.20",
    "E44+E0F=3225.20,3255.20 E44+E10=3226.20,3255.20 E44+E11=3227.20,3255.20",
    "E44+E12=3228.20,3255.20 E44+E13=3229.20,3255.20 E44+E14=322A.20,3255.20",
    "E44+E15=322B.20,3255.20 E44+E16=322C.20,3255.20 E44+E17=322D.20,3255.20",
    "E44+E18=322E.20,3255.20 E44+E19=322F.20,3255.20 E44+E1A=3230.20,3255.20",
    "E44+E1B=3231.20,3255.20 E44+E1C=3232.20,3255.20 E44+E1D=3233.20,3255.20",
    "E44+E1E=3234.20,3255.20 E44+E1F=3235.20,3255.20 E44+E20=3236.20,3255.20",
    "E44+E21=3237.20,3255.20 E44+E22=3238.20,3255.20 E44+E23=3239.20,3255.20",
    "E44+E24=323A.20,3255.20 E44+E25=323B.20,3255.20 E44+E26=323C.20,3255.20",
    "E44+E27=323D.20,3255.20 E44+E28=323E.20,3255.20 E44+E29=323F.20,3255.20",
    "E44+E2A=3240.20,3255.20 E44+E2B=3241.20,3255.20 E44+E2C=3242.20,3255.20",
    "E44+E2D=3243.20,3255.20 E44+E2E=3244.20,3255.20 E4D+E32=3249.20 EC0+E81=3258.20,3291.20",
    "EC0+E82=3259.20,3291.20 EC0+E84=325A.20,3291.20 EC0+E87=325C.20,3291.20",
    "EC0+E88=325D.20,3291.20 EC0+E8A=3260.20,3291.20 EC0+E8D=3264.20,3291.20",
    "EC0+E94=326A.20,3291.20 EC0+E95=326B.20,3291.20 EC0+E96=326C.20,3291.20",
    "EC0+E97=326D.20,3291.20 EC0+E99=326F.20,3291.20 EC0+E9A=3270.20,3291.20",
    "EC0+E9B=3271.20,3291.20 EC0+E9C=3272.20,3291.20 EC0+E9D=3273.20,3291.20",
    "EC0+E9E=3274.20,3291.20 EC0+E9F=3275.20,3291.20 EC0+EA1=3277.20,3291.20",
    "EC0+EA2=3278.20,3291.20 EC0+EA3=3279.20,3291.20 EC0+EA5=327A.20,3291.20",
    "EC0+EA7=327B.20,3291.20 EC0+EAA=325F.20,3291.20 EC0+EAB=327E.20,3291.20",
    "EC0+EAD=3280.20,3291.20 EC0+EAE=3281.20,3291.20 EC0+EDC=327E.20,326F.20,3291.20",
    "EC0+EDD=327E.20,3277.20,3291.20 EC0+EDE=3257.20,3291.20 EC0+EDF=3263.20,3291.20",
    "EC1+E81=3258.20,3292.20 EC1+E82=3259.20,3292.20 EC1+E84=325A.20,3292.20",
    "EC1+E87=325C.20,3292.20 EC1+E88=325D.20,3292.20 EC1+E8A=3260.20,3292.20",
    "EC1+E8D=3264.20,3292.20 EC1+E94=326A.20,3292.20 EC1+E95=326B.20,3292.20",
    "EC1+E96=326C.20,3292.20 EC1+E97=326D.20,3292.20 EC1+E99=326F.20,3292.20",
    "EC1+E9A=3270.20,3292.20 EC1+E9B=3271.20,3292.20 EC1+E9C=3272.20,3292.20",
    "EC1+E9D=3273.20,3292.20 EC1+E9E=3274.20,3292.20 EC1+E9F=3275.20,3292.20",
    "EC1+EA1=3277.20,3292.20 EC1+EA2=3278.20,3292.20 EC1+EA3=3279.20,3292.20",
    "EC1+EA5=327A.20,3292.20 EC1+EA7=327B.20,3292.20 EC1+EAA=325F.20,3292.20",
    "EC1+EAB=327E.20,3292.20 EC1+EAD=3280.20,3292.20 EC1+EAE=3281.20,3292.20",
    "EC1+EDC=327E.20,326F.20,3292.20 EC1+EDD=327E.20,3277.20,3292.20 EC1+EDE=3257.20,3292.20",
    "EC1+EDF=3263.20,3292.20 EC2+E81=3258.20,3293.20 EC2+E82=3259.20,3293.20",
    "EC2+E84=325A.20,3293.20 EC2+E87=325C.20,3293.20 EC2+E88=325D.20,3293.20",
    "EC2+E8A=3260.20,3293.20 EC2+E8D=3264.20,3293.20 EC2+E94=326A.20,3293.20",
    "EC2+E95=326B.20,3293.20 EC2+E96=326C.20,3293.20 EC2+E97=326D.20,3293.20",
    "EC2+E99=326F.20,3293.20 EC2+E9A=3270.20,3293.20 EC2+E9B=3271.20,3293.20",
    "EC2+E9C=3272.20,3293.20 EC2+E9D=3273.20,3293.20 EC2+E9E=3274.20,3293.20",
    "EC2+E9F=3275.20,3293.20 EC2+EA1=3277.20,3293.20 EC2+EA2=3278.20,3293.20",
    "EC2+EA3=3279.20,3293.20 EC2+EA5=327A.20,3293.20 EC2+EA7=327B.20,3293.20",
    "EC2+EAA=325F.20,3293.20 EC2+EAB=327E.20,3293.20 EC2+EAD=3280.20,3293.20",
    "EC2+EAE=3281.20,3293.20 EC2+EDC=327E.20,326F.20,3293.20 EC2+EDD=327E.20,3277.20,3293.20",
    "EC2+EDE=3257.20,3293.20 EC2+EDF=3263.20,3293.20 EC3+E81=3258.20,3294.20",
    "EC3+E82=3259.20,3294.20 EC3+E84=325A.20,3294.20 EC3+E87=325C.20,3294.20",
    "EC3+E88=325D.20,3294.20 EC3+E8A=3260.20,3294.20 EC3+E8D=3264.20,3294.20",
    "EC3+E94=326A.20,3294.20 EC3+E95=326B.20,3294.20 EC3+E96=326C.20,3294.20",
    "EC3+E97=326D.20,3294.20 EC3+E99=326F.20,3294.20 EC3+E9A=3270.20,3294.20",
    "EC3+E9B=3271.20,3294.20 EC3+E9C=3272.20,3294.20 EC3+E9D=3273.20,3294.20",
    "EC3+E9E=3274.20,3294.20 EC3+E9F=3275.20,3294.20 EC3+EA1=3277.20,3294.20",
    "EC3+EA2=3278.20,3294.20 EC3+EA3=3279.20,3294.20 EC3+EA5=327A.20,3294.20",
    "EC3+EA7=327B.20,3294.20 EC3+EAA=325F.20,3294.20 EC3+EAB=327E.20,3294.20",
    "EC3+EAD=3280.20,3294.20 EC3+EAE=3281.20,3294.20 EC3+EDC=327E.20,326F.20,3294.20",
    "EC3+EDD=327E.20,3277.20,3294.20 EC3+EDE=3257.20,3294.20 EC3+EDF=3263.20,3294.20",
    "EC4+E81=3258.20,3295.20 EC4+E82=3259.20,3295.20 EC4+E84=325A.20,3295.20",
    "EC4+E87=325C.20,3295.20 EC4+E88=325D.20,3295.20 EC4+E8A=3260.20,3295.20",
    "EC4+E8D=3264.20,3295.20 EC4+E94=326A.20,3295.20 EC4+E95=326B.20,3295.20",
    "EC4+E96=326C.20,3295.20 EC4+E97=326D.20,3295.20 EC4+E99=326F.20,3295.20",
    "EC4+E9A=3270.20,3295.20 EC4+E9B=3271.20,3295.20 EC4+E9C=3272.20,3295.20",
    "EC4+E9D=3273.20,3295.20 EC4+E9E=3274.20,3295.20 EC4+E9F=3275.20,3295.20",
    "EC4+EA1=3277.20,3295.20 EC4+EA2=3278.20,3295.20 EC4+EA3=3279.20,3295.20",
    "EC4+EA5=327A.20,3295.20 EC4+EA7=327B.20,3295.20 EC4+EAA=325F.20,3295.20",
    "EC4+EAB=327E.20,3295.20 EC4+EAD=3280.20,3295.20 EC4+EAE=3281.20,3295.20",
    "EC4+EDC=327E.20,326F.20,3295.20 EC4+EDD=327E.20,3277.20,3295.20 EC4+EDE=3257.20,3295.20",
    "EC4+EDF=3263.20,3295.20 ECD+EB2=3286.20 F71+F72=332B.20 F71+F74=332F.20 F71+F80=332D.20",
    "FB2+F71+F80=3331.20 FB2+F80=3330.20 FB2+F81=3331.20 FB3+F71+F80=3333.20 FB3+F80=3332.20",
    "FB3+F81=3333.20 1025+102E=35DD.20 19B5+1980=36DE.20,370F.20 19B5+1981=36DF.20,370F.20",
    "19B5+1982=36E0.20,370F.20 19B5+1983=36E1.20,370F.20 19B5+1984=36E2.20,370F.20",
    "19B5+1985=36E3.20,370F.20 19B5+1986=36E4.20,370F.20 19B5+1987=36E5.20,370F.20",
    "19B5+1988=36E6.20,370F.20 19B5+1989=36E7.20,370F.20 19B5+198A=36E8.20,370F.20",
    "19B5+198B=36E9.20,370F.20 19B5+198C=36EA.20,370F.20 19B5+198D=36EB.20,370F.20",
    "19B5+198E=36EC.20,370F.20 19B5+198F=36ED.20,370F.20 19B5+1990=36EE.20,370F.20",
    "19B5+1991=36EF.20,370F.20 19B5+1992=36F0.20,370F.20 19B5+1993=36F1.20,370F.20",
    "19B5+1994=36F2.20,370F.20 19B5+1995=36F3.20,370F.20 19B5+1996=36F4.20,370F.20",
    "19B5+1997=36F5.20,370F.20 19B5+1998=36F6.20,370F.20 19B5+1999=36F7.20,370F.20",
    "19B5+199A=36F8.20,370F.20 19B5+199B=36F9.20,370F.20 19B5+199C=36FA.20,370F.20",
    "19B5+199D=36FB.20,370F.20 19B5+199E=36FC.20,370F.20 19B5+199F=36FD.20,370F.20",
    "19B5+19A0=36FE.20,370F.20 19B5+19A1=36FF.20,370F.20 19B5+19A2=3700.20,370F.20",
    "19B5+19A3=3701.20,370F.20 19B5+19A4=3702.20,370F.20 19B5+19A5=3703.20,370F.20",
    "19B5+19A6=3704.20,370F.20 19B5+19A7=3705.20,370F.20 19B5+19A8=3706.20,370F.20",
    "19B5+19A9=3707.20,370F.20 19B5+19AA=3708.20,370F.20 19B5+19AB=3709.20,370F.20",
    "19B6+1980=36DE.20,3710.20 19B6+1981=36DF.20,3710.20 19B6+1982=36E0.20,3710.20",
    "19B6+1983=36E1.20,3710.20 19B6+1984=36E2.20,3710.20 19B6+1985=36E3.20,3710.20",
    "19B6+1986=36E4.20,3710.20 19B6+1987=36E5.20,3710.20 19B6+1988=36E6.20,3710.20",
    "19B6+1989=36E7.20,3710.20 19B6+198A=36E8.20,3710.20 19B6+198B=36E9.20,3710.20",
    "19B6+198C=36EA.20,3710.20 19B6+198D=36EB.20,3710.20 19B6+198E=36EC.20,3710.20",
    "19B6+198F=36ED.20,3710.20 19B6+1990=36EE.20,3710.20 19B6+1991=36EF.20,3710.20",
    "19B6+1992=36F0.20,3710.20 19B6+1993=36F1.20,3710.20 19B6+1994=36F2.20,3710.20",
    "19B6+1995=36F3.20,3710.20 19B6+1996=36F4.20,3710.20 19B6+1997=36F5.20,3710.20",
    "19B6+1998=36F6.20,3710.20 19B6+1999=36F7.20,3710.20 19B6+199A=36F8.20,3710.20",
    "19B6+199B=36F9.20,3710.20 19B6+199C=36FA.20,3710.20 19B6+199D=36FB.20,3710.20",
    "19B6+199E=36FC.20,3710.20 19B6+199F=36FD.20,3710.20 19B6+19A0=36FE.20,3710.20",
    "19B6+19A1=36FF.20,3710.20 19B6+19A2=3700.20,3710.20 19B6+19A3=3701.20,3710.20",
    "19B6+19A4=3702.20,3710.20 19B6+19A5=3703.20,3710.20 19B6+19A6=3704.20,3710.20",
    "19B6+19A7=3705.20,3710.20 19B6+19A8=3706.20,3710.20 19B6+19A9=3707.20,3710.20",
    "19B6+19AA=3708.20,3710.20 19B6+19AB=3709.20,3710.20 19B7+1980=36DE.20,3711.20",
    "19B7+1981=36DF.20,3711.20 19B7+1982=36E0.20,3711.20 19B7+1983=36E1.20,3711.20",
    "19B7+1984=36E2.20,3711.20 19B7+1985=36E3.20,3711.20 19B7+1986=36E4.20,3711.20",
    "19B7+1987=36E5.20,3711.20 19B7+1988=36E6.20,3711.20 19B7+1989=36E7.20,3711.20",
    "19B7+198A=36E8.20,3711.20 19B7+198B=36E9.20,3711.20 19B7+198C=36EA.20,3711.20",
    "19B7+198D=36EB.20,3711.20 19B7+198E=36EC.20,3711.20 19B7+198F=36ED.20,3711.20",
    "19B7+1990=36EE.20,3711.20 19B7+1991=36EF.20,3711.20 19B7+1992=36F0.20,3711.20",
    "19B7+1993=36F1.20,3711.20 19B7+1994=36F2.20,3711.20 19B7+1995=36F3.20,3711.20",
    "19B7+1996=36F4.20,3711.20 19B7+1997=36F5.20,3711.20 19B7+1998=36F6.20,3711.20",
    "19B7+1999=36F7.20,3711.20 19B7+199A=36F8.20,3711.20 19B7+199B=36F9.20,3711.20",
    "19B7+199C=36FA.20,3711.20 19B7+199D=36FB.20,3711.20 19B7+199E=36FC.20,3711.20",
    "19B7+199F=36FD.20,3711.20 19B7+19A0=36FE.20,3711.20 19B7+19A1=36FF.20,3711.20",
    "19B7+19A2=3700.20,3711.20 19B7+19A3=3701.20,3711.20 19B7+19A4=3702.20,3711.20",
    "19B7+19A5=3703.20,3711.20 19B7+19A6=3704.20,3711.20 19B7+19A7=3705.20,3711.20",
    "19B7+19A8=3706.20,3711.20 19B7+19A9=3707.20,3711.20 19B7+19AA=3708.20,3711.20",
    "19B7+19AB=3709.20,3711.20 19BA+1980=36DE.20,3714.20 19BA+1981=36DF.20,3714.20",
    "19BA+1982=36E0.20,3714.20 19BA+1983=36E1.20,3714.20 19BA+1984=36E2.20,3714.20",
    "19BA+1985=36E3.20,3714.20 19BA+1986=36E4.20,3714.20 19BA+1987=36E5.20,3714.20",
    "19BA+1988=36E6.20,3714.20 19BA+1989=36E7.20,3714.20 19BA+198A=36E8.20,3714.20",
    "19BA+198B=36E9.20,3714.20 19BA+198C=36EA.20,3714.20 19BA+198D=36EB.20,3714.20",
    "19BA+198E=36EC.20,3714.20 19BA+198F=36ED.20,3714.20 19BA+1990=36EE.20,3714.20",
    "19BA+1991=36EF.20,3714.20 19BA+1992=36F0.20,3714.20 19BA+1993=36F1.20,3714.20",
    "19BA+1994=36F2.20,3714.20 19BA+1995=36F3.20,3714.20 19BA+1996=36F4.20,3714.20",
    "19BA+1997=36F5.20,3714.20 19BA+1998=36F6.20,3714.20 19BA+1999=36F7.20,3714.20",
    "19BA+199A=36F8.20,3714.20 19BA+199B=36F9.20,3714.20 19BA+199C=36FA.20,3714.20",
    "19BA+199D=36FB.20,3714.20 19BA+199E=36FC.20,3714.20 19BA+199F=36FD.20,3714.20",
    "19BA+19A0=36FE.20,3714.20 19BA+19A1=36FF.20,3714.20 19BA+19A2=3700.20,3714.20",
    "19BA+19A3=3701.20,3714.20 19BA+19A4=3702.20,3714.20 19BA+19A5=3703.20,3714.20",
    "19BA+19A6=3704.20,3714.20 19BA+19A7=3705.20,3714.20 19BA+19A8=3706.20,3714.20",
    "19BA+19A9=3707.20,3714.20 19BA+19AA=3708.20,3714.20 19BA+19AB=3709.20,3714.20",
    "1B05+1B35=37B7.20 1B07+1B35=37B9.20 1B09+1B35=37BB.20 1B0B+1B35=37BD.20",
    "1B0D+1B35=37BF.20 1B11+1B35=37C3.20 1B3A+1B35=37F2.20 1B3C+1B35=37F4.20",
    "1B3E+1B35=37F7.20 1B3F+1B35=37F8.20 1B42+1B35=37FA.20 AAB5+AA80=3296.20,32CB.20",
    "AAB5+AA81=3297.20,32CB.20 AAB5+AA82=3298.20,32CB.20 AAB5+AA83=3299.20,32CB.20",
    "AAB5+AA84=329A.20,32CB.20 AAB5+AA85=329B.20,32CB.20 AAB5+AA86=329C.20,32CB.20",
    "AAB5+AA87=329D.20,32CB.20 AAB5+AA88=329E.20,32CB.20 AAB5+AA89=329F.20,32CB.20",
    "AAB5+AA8A=32A0.20,32CB.20 AAB5+AA8B=32A1.20,32CB.20 AAB5+AA8C=32A2.20,32CB.20",
    "AAB5+AA8D=32A3.20,32CB.20 AAB5+AA8E=32A4.20,32CB.20 AAB5+AA8F=32A5.20,32CB.20",
    "AAB5+AA90=32A6.20,32CB.20 AAB5+AA91=32A7.20,32CB.20 AAB5+AA92=32A8.20,32CB.20",
    "AAB5+AA93=32A9.20,32CB.20 AAB5+AA94=32AA.20,32CB.20 AAB5+AA95=32AB.20,32CB.20",
    "AAB5+AA96=32AC.20,32CB.20 AAB5+AA97=32AD.20,32CB.20 AAB5+AA98=32AE.20,32CB.20",
    "AAB5+AA99=32AF.20,32CB.20 AAB5+AA9A=32B0.20,32CB.20 AAB5+AA9B=32B1.20,32CB.20",
    "AAB5+AA9C=32B2.20,32CB.20 AAB5+AA9D=32B3.20,32CB.20 AAB5+AA9E=32B4.20,32CB.20",
    "AAB5+AA9F=32B5.20,32CB.20 AAB5+AAA0=32B6.20,32CB.20 AAB5+AAA1=32B7.20,32CB.20",
    "AAB5+AAA2=32B8.20,32CB.20 AAB5+AAA3=32B9.20,32CB.20 AAB5+AAA4=32BA.20,32CB.20",
    "AAB5+AAA5=32BB.20,32CB.20 AAB5+AAA6=32BC.20,32CB.20 AAB5+AAA7=32BD.20,32CB.20",
    "AAB5+AAA8=32BE.20,32CB.20 AAB5+AAA9=32BF.20,32CB.20 AAB5+AAAA=32C0.20,32CB.20",
    "AAB5+AAAB=32C1.20,32CB.20 AAB5+AAAC=32C2.20,32CB.20 AAB5+AAAD=32C3.20,32CB.20",
    "AAB5+AAAE=32C4.20,32CB.20 AAB5+AAAF=32C5.20,32CB.20 AAB6+AA80=3296.20,32CC.20",
    "AAB6+AA81=3297.20,32CC.20 AAB6+AA82=3298.20,32CC.20 AAB6+AA83=3299.20,32CC.20",
    "AAB6+AA84=329A.20,32CC.20 AAB6+AA85=329B.20,32CC.20 AAB6+AA86=329C.20,32CC.20",
    "AAB6+AA87=329D.20,32CC.20 AAB6+AA88=329E.20,32CC.20 AAB6+AA89=329F.20,32CC.20",
    "AAB6+AA8A=32A0.20,32CC.20 AAB6+AA8B=32A1.20,32CC.20 AAB6+AA8C=32A2.20,32CC.20",
    "AAB6+AA8D=32A3.20,32CC.20 AAB6+AA8E=32A4.20,32CC.20 AAB6+AA8F=32A5.20,32CC.20",
    "AAB6+AA90=32A6.20,32CC.20 AAB6+AA91=32A7.20,32CC.20 AAB6+AA92=32A8.20,32CC.20",
    "AAB6+AA93=32A9.20,32CC.20 AAB6+AA94=32AA.20,32CC.20 AAB6+AA95=32AB.20,32CC.20",
    "AAB6+AA96=32AC.20,32CC.20 AAB6+AA97=32AD.20,32CC.20 AAB6+AA98=32AE.20,32CC.20",
    "AAB6+AA99=32AF.20,32CC.20 AAB6+AA9A=32B0.20,32CC.20 AAB6+AA9B=32B1.20,32CC.20",
    "AAB6+AA9C=32B2.20,32CC.20 AAB6+AA9D=32B3.20,32CC.20 AAB6+AA9E=32B4.20,32CC.20",
    "AAB6+AA9F=32B5.20,32CC.20 AAB6+AAA0=32B6.20,32CC.20 AAB6+AAA1=32B7.20,32CC.20",
    "AAB6+AAA2=32B8.20,32CC.20 AAB6+AAA3=32B9.20,32CC.20 AAB6+AAA4=32BA.20,32CC.20",
    "AAB6+AAA5=32BB.20,32CC.20 AAB6+AAA6=32BC.20,32CC.20 AAB6+AAA7=32BD.20,32CC.20",
    "AAB6+AAA8=32BE.20,32CC.20 AAB6+AAA9=32BF.20,32CC.20 AAB6+AAAA=32C0.20,32CC.20",
    "AAB6+AAAB=32C1.20,32CC.20 AAB6+AAAC=32C2.20,32CC.20 AAB6+AAAD=32C3.20,32CC.20",
    "AAB6+AAAE=32C4.20,32CC.20 AAB6+AAAF=32C5.20,32CC.20 AAB9+AA80=3296.20,32CF.20",
    "AAB9+AA81=3297.20,32CF.20 AAB9+AA82=3298.20,32CF.20 AAB9+AA83=3299.20,32CF.20",
    "AAB9+AA84=329A.20,32CF.20 AAB9+AA85=329B.20,32CF.20 AAB9+AA86=329C.20,32CF.20",
    "AAB9+AA87=329D.20,32CF.20 AAB9+AA88=329E.20,32CF.20 AAB9+AA89=329F.20,32CF.20",
    "AAB9+AA8A=32A0.20,32CF.20 AAB9+AA8B=32A1.20,32CF.20 AAB9+AA8C=32A2.20,32CF.20",
    "AAB9+AA8D=32A3.20,32CF.20 AAB9+AA8E=32A4.20,32CF.20 AAB9+AA8F=32A5.20,32CF.20",
    "AAB9+AA90=32A6.20,32CF.20 AAB9+AA91=32A7.20,32CF.20 AAB9+AA92=32A8.20,32CF.20",
    "AAB9+AA93=32A9.20,32CF.20 AAB9+AA94=32AA.20,32CF.20 AAB9+AA95=32AB.20,32CF.20",
    "AAB9+AA96=32AC.20,32CF.20 AAB9+AA97=32AD.20,32CF.20 AAB9+AA98=32AE.20,32CF.20",
    "AAB9+AA99=32AF.20,32CF.20 AAB9+AA9A=32B0.20,32CF.20 AAB9+AA9B=32B1.20,32CF.20",
    "AAB9+AA9C=32B2.20,32CF.20 AAB9+AA9D=32B3.20,32CF.20 AAB9+AA9E=32B4.20,32CF.20",
    "AAB9+AA9F=32B5.20,32CF.20 AAB9+AAA0=32B6.20,32CF.20 AAB9+AAA1=32B7.20,32CF.20",
    "AAB9+AAA2=32B8.20,32CF.20 AAB9+AAA3=32B9.20,32CF.20 AAB9+AAA4=32BA.20,32CF.20",
    "AAB9+AAA5=32BB.20,32CF.20 AAB9+AAA6=32BC.20,32CF.20 AAB9+AAA7=32BD.20,32CF.20",
    "AAB9+AAA8=32BE.20,32CF.20 AAB9+AAA9=32BF.20,32CF.20 AAB9+AAAA=32C0.20,32CF.20",
    "AAB9+AAAB=32C1.20,32CF.20 AAB9+AAAC=32C2.20,32CF.20 AAB9+AAAD=32C3.20,32CF.20",
    "AAB9+AAAE=32C4.20,32CF.20 AAB9+AAAF=32C5.20,32CF.20 AABB+AA80=3296.20,32D1.20",
    "AABB+AA81=3297.20,32D1.20 AABB+AA82=3298.20,32D1.20 AABB+AA83=3299.20,32D1.20",
    "AABB+AA84=329A.20,32D1.20 AABB+AA85=329B.20,32D1.20 AABB+AA86=329C.20,32D1.20",
    "AABB+AA87=329D.20,32D1.20 AABB+AA88=329E.20,32D1.20 AABB+AA89=329F.20,32D1.20",
    "AABB+AA8A=32A0.20,32D1.20 AABB+AA8B=32A1.20,32D1.20 AABB+AA8C=32A2.20,32D1.20",
    "AABB+AA8D=32A3.20,32D1.20 AABB+AA8E=32A4.20,32D1.20 AABB+AA8F=32A5.20,32D1.20",
    "AABB+AA90=32A6.20,32D1.20 AABB+AA91=32A7.20,32D1.20 AABB+AA92=32A8.20,32D1.20",
    "AABB+AA93=32A9.20,32D1.20 AABB+AA94=32AA.20,32D1.20 AABB+AA95=32AB.20,32D1.20",
    "AABB+AA96=32AC.20,32D1.20 AABB+AA97=32AD.20,32D1.20 AABB+AA98=32AE.20,32D1.20",
    "AABB+AA99=32AF.20,32D1.20 AABB+AA9A=32B0.20,32D1.20 AABB+AA9B=32B1.20,32D1.20",
    "AABB+AA9C=32B2.20,32D1.20 AABB+AA9D=32B3.20,32D1.20 AABB+AA9E=32B4.20,32D1.20",
    "AABB+AA9F=32B5.20,32D1.20 AABB+AAA0=32B6.20,32D1.20 AABB+AAA1=32B7.20,32D1.20",
    "AABB+AAA2=32B8.20,32D1.20 AABB+AAA3=32B9.20,32D1.20 AABB+AAA4=32BA.20,32D1.20",
    "AABB+AAA5=32BB.20,32D1.20 AABB+AAA6=32BC.20,32D1.20 AABB+AAA7=32BD.20,32D1.20",
    "AABB+AAA8=32BE.20,32D1.20 AABB+AAA9=32BF.20,32D1.20 AABB+AAAA=32C0.20,32D1.20",
    "AABB+AAAB=32C1.20,32D1.20 AABB+AAAC=32C2.20,32D1.20 AABB+AAAD=32C3.20,32D1.20",
    "AABB+AAAE=32C4.20,32D1.20 AABB+AAAF=32C5.20,32D1.20 AABC+AA80=3296.20,32D2.20",
    "AABC+AA81=3297.20,32D2.20 AABC+AA82=3298.20,32D2.20 AABC+AA83=3299.20,32D2.20",
    "AABC+AA84=329A.20,32D2.20 AABC+AA85=329B.20,32D2.20 AABC+AA86=329C.20,32D2.20",
    "AABC+AA87=329D.20,32D2.20 AABC+AA88=329E.20,32D2.20 AABC+AA89=329F.20,32D2.20",
    "AABC+AA8A=32A0.20,32D2.20 AABC+AA8B=32A1.20,32D2.20 AABC+AA8C=32A2.20,32D2.20",
    "AABC+AA8D=32A3.20,32D2.20 AABC+AA8E=32A4.20,32D2.20 AABC+AA8F=32A5.20,32D2.20",
    "AABC+AA90=32A6.20,32D2.20 AABC+AA91=32A7.20,32D2.20 AABC+AA92=32A8.20,32D2.20",
    "AABC+AA93=32A9.20,32D2.20 AABC+AA94=32AA.20,32D2.20 AABC+AA95=32AB.20,32D2.20",
    "AABC+AA96=32AC.20,32D2.20 AABC+AA97=32AD.20,32D2.20 AABC+AA98=32AE.20,32D2.20",
    "AABC+AA99=32AF.20,32D2.20 AABC+AA9A=32B0.20,32D2.20 AABC+AA9B=32B1.20,32D2.20",
    "AABC+AA9C=32B2.20,32D2.20 AABC+AA9D=32B3.20,32D2.20 AABC+AA9E=32B4.20,32D2.20",
    "AABC+AA9F=32B5.20,32D2.20 AABC+AAA0=32B6.20,32D2.20 AABC+AAA1=32B7.20,32D2.20",
    "AABC+AAA2=32B8.20,32D2.20 AABC+AAA3=32B9.20,32D2.20 AABC+AAA4=32BA.20,32D2.20",
    "AABC+AAA5=32BB.20,32D2.20 AABC+AAA6=32BC.20,32D2.20 AABC+AAA7=32BD.20,32D2.20",
    "AABC+AAA8=32BE.20,32D2.20 AABC+AAA9=32BF.20,32D2.20 AABC+AAAA=32C0.20,32D2.20",
    "AABC+AAAB=32C1.20,32D2.20 AABC+AAAC=32C2.20,32D2.20 AABC+AAAD=32C3.20,32D2.20",
    "AABC+AAAE=32C4.20,32D2.20 AABC+AAAF=32C5.20,32D2.20 11131+11127=366C.20",
    "11132+11127=366D.20"]

end Collation

end MailStore
