/-!
# Compatible forms, as published

The compatibility decompositions of the character database, version 14, without the
syllables of Hangul, which are computed.  A *run* `FF41-FF5A~FEE0` sends every
character of a range to the one so many places back (`+` for forward), and `/2`
after the range only every second one.  A *spread* `FB01=66,69` sends one character to
several.  A *pair* `41:300=C0,301=C1` says what the character before the colon makes
with each of the marks after it.  A *rank* `300-314=E6` orders marks that stand on
one character.
-/

namespace PolicyStudio
namespace Text
namespace NormalTable

/-- Characters that stand for one other character. -/
def runs : String :=
  ("A0~80 AA~49 B2-B3~80 B5+307 B9~88 BA~4B 17F~10C 2B0~248 2B1~4B 2B2~248 2B3~241 2B4~3B " ++
  "2B5~3A 2B6~35 2B7~240 2B8~23F 2E0~7D 2E1~275 2E2~26F 2E3~26B 2E4~4F 340-341~40 343~30 " ++
  "374~BB 37E~343 387~2D0 3D0~1E 3D1~19 3D2~2D 3D5~F 3D6~16 3F0~36 3F1-3F2~30 3F4~5C 3F5~40 " ++
  "3F9~56 F0C~1 10FC~20 1D2C~1CEB 1D2D~1C67 1D2E-1D30/2~1CEC 1D31~1CEC 1D32~1BA4 " ++
  "1D33-1D3A~1CEC 1D3C~1CED 1D3D~1B1B 1D3E~1CEE 1D3F~1CED 1D40-1D41~1CEC 1D42~1CEB " ++
  "1D43~1CE2 1D44-1D45~1AF4 1D46~44 1D47~1CE5 1D48-1D49~1CE4 1D4A~1AF1 1D4B-1D4C~1AF0 " ++
  "1D4D~1CE6 1D4F~1CE4 1D50~1CE3 1D51~1C06 1D52~1CE3 1D53~1AFF 1D54-1D55~3E 1D56~1CE6 " ++
  "1D57-1D58~1CE3 1D59~3C 1D5A~1AEB 1D5B~1CE5 1D5C~37 1D5D-1D5F~19AB 1D60-1D61~199A " ++
  "1D62~1CF9 1D63~1CF1 1D64-1D65~1CEF 1D66-1D67~19B4 1D68~19A7 1D69-1D6A~19A3 1D78~193B " ++
  "1D9B~1B49 1D9C~1D39 1D9D~1B48 1D9E~1CAE 1D9F~1B43 1DA0~1D3A 1DA1~1B42 1DA2~1B41 " ++
  "1DA3~1B3E 1DA4-1DA6~1B3C 1DA7~2C 1DA8~1B0B 1DA9~1B3C 1DAA~25 1DAB~1B0C 1DAC~1B3B " ++
  "1DAD~1B3D 1DAE-1DB1~1B3C 1DB2~1B3A 1DB3-1DB4~1B31 1DB5~1C0A 1DB6-1DB7~1B2D 1DB8~9C " ++
  "1DB9-1DBA~1B2E 1DBB~1D41 1DBC-1DBE~1B2C 1DBF~1A07 1FBE~1C05 1FEF~1F8F 2000~1FE0 " ++
  "2001~1FE1 2002~1FE2 2003~1FE3 2004~1FE4 2005~1FE5 2006~1FE6 2007~1FE7 2008~1FE8 " ++
  "2009~1FE9 200A~1FEA 2011~1 2024~1FF6 202F~200F 205F~203F 2070~2040 2071~2008 " ++
  "2074-2079~2040 207A~204F 207B+197 207C~203F 207D-207E~2055 207F~2011 2080-2089~2050 " ++
  "208A~205F 208B+187 208C~204F 208D-208E~2065 2090~202F 2091~202C 2092~2023 2093~201B " ++
  "2094~1E3B 2095~202D 2096-2099~202B 209A~202A 209B-209C~2028 2102~20BF 2107~1F77 " ++
  "210A~20A3 210B~20C3 210C~20C4 210D~20C5 210E~20A6 210F~1FE8 2110~20C7 2111~20C8 " ++
  "2112~20C6 2113~20A7 2115~20C7 2119-211B~20C9 211C~20CA 211D~20CB 2124~20CA 2126~1D7D " ++
  "2128~20CE 212A~20DF 212C-212D~20EA 212F~20CA 2130-2131~20EB 2133~20E6 2134~20C5 " ++
  "2135-2138~1B65 2139~20D0 213C~1D7C 213D~1D8A 213E~1DAB 213F~1D9F 2140+D1 2145~2101 " ++
  "2146-2147~20E2 2148-2149~20DF 2160~2117 2164~210E 2169~2111 216C~2120 216D-216E~212A " ++
  "216F~2122 2170~2107 2174~20FE 2179~2101 217C~2110 217D-217E~211A 217F~2112 2329-232A+CDF " ++
  "2460-2468~242F 24B6-24CF~2475 24D0-24E9~246F 24EA~24BA 2C7C~2C12 2C7D~2C27 2D6F~E " ++
  "2E9F+3D2E 2EF3+70AC 2F00+1F00 2F01+1F27 2F02+1F34 2F03+1F3C 2F04+1F55 2F05+1F80 " ++
  "2F06+1F86 2F07+1F99 2F08+1FB2 2F09+2236 2F0A+225B 2F0B+2260 2F0C+2276 2F0D+2289 " ++
  "2F0E+229D 2F0F+22D1 2F10+22E5 2F11+22EF 2F12+2389 2F13+23E6 2F14+2401 2F15+2405 " ++
  "2F16+2422 2F17+242A 2F18+2444 2F19+2450 2F1A+2468 2F1B+249B 2F1C+24AC 2F1D+24C6 " ++
  "2F1E+27B9 2F1F+2800 2F20+29CB 2F21+29E1 2F22+29E8 2F23+29F2 2F24+2A03 2F25+2A4E " ++
  "2F26+2C2A 2F27+2C59 2F28+2CD0 2F29+2CE6 2F2A+2CF8 2F2B+2D0D 2F2C+2D42 2F2D+2D44 " ++
  "2F2E+2EAD 2F2F+2EB6 2F30+2EC1 2F31+2ECD 2F32+2F40 2F33+2F47 2F34+2F4B 2F35+2FBF " ++
  "2F36+2FC8 2F37+2FD4 2F38+2FDB 2F39+3017 2F3A+3027 2F3B+3038 2F3C+3087 2F3D+32CB " ++
  "2F3E+32F8 2F3F+330C 2F40+35EF 2F41+35F3 2F42+3645 2F43+3654 2F44+3660 2F45+3674 " ++
  "2F46+369A 2F47+369E 2F48+37A8 2F49+37BF 2F4A+37DE 2F4B+3BD5 2F4C+3C16 2F4D+3C2C " ++
  "2F4E+3C65 2F4F+3C7C 2F50+3C84 2F51+3C8A 2F52+3CBD 2F53+3CC1 2F54+3CE0 2F55+4116 " ++
  "2F56+42D4 2F57+42DF 2F58+42E3 2F59+42E6 2F5A+42ED 2F5B+42FE 2F5C+42FF 2F5D+434F " ++
  "2F5E+4426 2F5F+442A 2F60+457C 2F61+4585 2F62+45B6 2F63+45BC 2F64+45C4 2F65+45CB " ++
  "2F66+4625 2F67+462B 2F68+470E 2F69+4714 2F6A+4744 2F6B+4754 2F6C+4782 2F6D+486E " ++
  "2F6E+4874 2F6F+4884 2F70+49CA 2F71+4A47 2F72+4A4C 2F73+4B01 2F74+4B57 2F75+4B84 " ++
  "2F76+4CFD 2F77+4D81 2F78+4FBE 2F79+4FD8 2F7A+5010 2F7B+5042 2F7C+5085 2F7D+508F " ++
  "2F7E+5094 2F7F+50B4 2F80+50FF 2F81+5108 2F82+5261 2F83+5267 2F84+526F 2F85+5277 " ++
  "2F86+5286 2F87+5294 2F88+5297 2F89+52E5 2F8A+52E8 2F8B+52ED 2F8C+56C1 2F8D+56DE " ++
  "2F8E+58B2 2F8F+58BD 2F90+58D3 2F91+59ED 2F92+59F9 2F93+5A3F 2F94+5A6C 2F95+5CA2 " ++
  "2F96+5CB0 2F97+5CBE 2F98+5CE0 2F99+5D04 2F9A+5DCA 2F9B+5DD5 2F9C+5E17 2F9D+5F0E " ++
  "2F9E+5F2C 2F9F+5FFC 2FA0+6010 2FA1+6014 2FA2+60EF 2FA3+61A6 2FA4+6222 2FA5+6227 " ++
  "2FA6+622B 2FA7+65D0 2FA8+65D8 2FA9+6673 2FAA+670C 2FAB+670E 2FAC+673C 2FAD+67A4 " ++
  "2FAE+67B0 2FAF+67B3 2FB0+67B9 2FB1+681A 2FB2+683B 2FB3+6840 2FB4+684D 2FB5+68F3 " ++
  "2FB6+6925 2FB7+6928 2FB8+69DE 2FB9+69E0 2FBA+69F2 2FBB+6AED 2FBC+6B1C 2FBD+6B22 " ++
  "2FBE+6B67 2FBF+6B70 2FC0+6B72 2FC1+6B7B 2FC2+6B98 2FC3+6D22 2FC4+6EB1 2FC5+6EBA " ++
  "2FC6+6EDF 2FC7+6EF4 2FC8+6EFB 2FC9+6F04 2FCA+6F07 2FCB+6F2E 2FCC+6F31 2FCD+6F41 " ++
  "2FCE+6F45 2FCF+6F51 2FD0+6F6B 2FD1+6F79 2FD2+6F80 2FD3+6FBA 2FD4+6FC8 2FD5+6FCB " ++
  "3000~2FE0 3036~24 3038+2309 3039-303A+230B 3131-3132~2031 3133~1F89 3134~2032 " ++
  "3135-3136~1F89 3137-3139~2034 313A-313F~1F8A 3140~2026 3141-3143~203B 3144~2023 " ++
  "3145-314E~203C 314F-3163~1FEE 3164~2004 3165-3166~2051 3167-3168~1FA0 3169~1F9D " ++
  "316A~1F9C 316B~1F98 316C~1F95 316D~1F94 316E~2052 316F~1F92 3170~1F91 3171-3172~2054 " ++
  "3173~2053 3174-3175~2052 3176~204F 3177~204E 3178-317C~204D 317D~204B 317E~2048 " ++
  "317F~203F 3180~2039 3181~2035 3182-3183~1F91 3184-3186~202D 3187-3188~2003 3189~2001 " ++
  "318A-318B~1FF9 318C~1FF8 318D~1FEF 318E~1FED 3192+1C6E 3193+1CF9 3194+1C75 3195+2546 " ++
  "3196+1C74 3197+1C96 3198+1C73 3199+4399 319A+1CBF 319B+1C7E 319C+1C65 319D+278C " ++
  "319E+2592 319F+1D1B 3244+230B 3245+2C37 3246+3341 3247+4948 3260~2160 3261-3262~215F " ++
  "3263-3265~215E 3266~215D 3267-3268~215C 3269-326D~215B 3280+1B80 3281+1C0B 3282+1B87 " ++
  "3283+2458 3284+1C10 3285+1EE8 3286+1B7D 3287+1EE4 3288+1BD5 3289+20B8 328A+347E " ++
  "328B+3DE0 328C+39A8 328D+349B 328E+5F43 328F+2490 3290+3355 3291+3599 3292+3477 " ++
  "3293+46AB 3294+2179 3295+3FE4 3296+5A0B 3297+46C6 3298+201C 3299+473F 329A+429D " ++
  "329B+26D8 329C+5DCD 329D+1E8D 329E+20D2 329F+3A49 32A0+6565 32A1+1C70 32A2+1EF7 " ++
  "32A3+38C0 32A4+1B66 32A5+1B88 32A6+1B65 32A7+2B3F 32A8+214B 32A9+2092 32AA+28ED " ++
  "32AB+28BB 32AC+4437 32AD+1C54 32AE+5A19 32AF+20A5 32B0+266C 32D0~22E 32D1~22D 32D2~22C " ++
  "32D3~22B 32D4-32D5~22A 32D6~229 32D7~228 32D8~227 32D9~226 32DA~225 32DB~224 32DC~223 " ++
  "32DD~222 32DE~221 32DF~220 32E0~21F 32E1~21D 32E2~21C 32E3~21B 32E4-32E9~21A 32EA~218 " ++
  "32EB~216 32EC~214 32ED~212 32EE-32F2~210 32F3~20F 32F4~20E 32F5-32FA~20D 32FB-32FE~20C " ++
  "A69C~A252 A69D~A251 A770~1 A7F2~A7AF A7F3~A7AD A7F4~A7A3 A7F8~A6D2 A7F9~A6A6 AB5C~435 " ++
  "AB5D~26 AB5E~A8F3 AB5F~D AB69~A8DC F900~6CB8 F901~920D F902~6A38 F903~6C3B F904~8A33 " ++
  "F905~AAD3 F906~A521 F907~596B F908~596C F909~9FB8 F90A~6739 F90B~A384 F90C~9FC4 " ++
  "F90D~9717 F90E~82A5 F90F~798A F910~72D1 F911~7157 F912~701A F913~6884 F914~8F12 " ++
  "F915~8BFA F916~883D F917~8539 F918~74DB F919~67AF F91A~5F29 F91B~AA99 F91C~A5A7 " ++
  "F91D~8E19 F91E~8703 F91F~72F2 F920~5B02 F921~9BD1 F922~8937 F923~7356 F924~6FC0 " ++
  "F925~965C F926~774E F927~7108 F928~9A5E F929~9212 F92A~8BC0 F92B~862F F92C~685E " ++
  "F92D~A9A7 F92E~A777 F92F~A651 F930~946C F931~8E5E F932~8722 F933~824C F934~7933 " ++
  "F935~732F F936~72DA F937~6B48 F938~6206 F939~5DCA F93A~5B40 F93B~80AF F93C~7FBD " ++
  "F93D~7B9D F93E~7575 F93F~663B F940~5AC1 F941~6E6B F942~A063 F943~9A3F F944~7CE4 " ++
  "F945~78C7 F946~86E4 F947~807D F948~6C86 F949~6252 F94A~A072 F94B~9CE9 F94C~8F39 " ++
  "F94D~8B73 F94E~8A3F F94F~7C20 F950~7B19 F951~6306 F952~A680 F953~78C8 F954~A778 " ++
  "F955~A789 F956~7F3A F957~7B99 F958~7567 F959~62E4 F95A~6DDA F95B~968C F95C~8F5A " ++
  "F95D~6E5F F95E~AB25 F95F~9D78 F960~994E F961~85DA F962~83F2 F963~A64C F964~8069 " ++
  "F965~A9A6 F966~99BD F967~AB5A F968~8C9C F969~93F1 F96A~7C48 F96B~A5A8 F96C~A10E " ++
  "F96D~826C F96E~7525 F96F~6EC5 F970~8DB6 F971~69C1 F972~8CEA F973~9675 F974~768F " ++
  "F975~95D5 F976~8411 F977~AAC9 F978~A80F F979~A7B0 F97A~90F9 F97B~7C94 F97C~770D " ++
  "F97D~6EAB F97E~67AF F97F~A68A F980~A53E F981~A00E F982~9A96 F983~93BE F984~8986 " ++
  "F985~805B F986~63D9 F987~5F1D F988~5AF1 F989~5ABB F98A~A6EF F98B~92C5 F98C~8E15 " ++
  "F98D~6A2B F98E~9B1A F98F~97FF F990~9790 F991~94F7 F992~8A6F F993~884A F994~850B " ++
  "F995~7FCB F996~7BA2 F997~7928 F998~6A72 F999~74AB F99A~6977 F99B~6651 F99C~A785 " ++
  "F99D~A6FA F99E~A4E1 F99F~88D7 F9A0~70DE F9A1~6EF7 F9A2~9AD9 F9A3~99AE F9A4~9629 " ++
  "F9A5~8DF7 F9A6~7D68 F9A7~8632 F9A8~AAC4 F9A9~A2B0 F9AA~9DC3 F9AB~9BF1 F9AC~9990 " ++
  "F9AD~85FB F9AE~8545 F9AF~7A15 F9B0~796A F9B1~677D F9B2~62BC F9B3~626B F9B4~619C " ++
  "F9B5~AA2A F9B6~8008 F9B7~6803 F9B8~6300 F9B9~98D8 F9BA~AB34 F9BB~A8E1 F9BC~9DCE " ++
  "F9BD~9D7E F9BE~9425 F9BF~8FBD F9C0~87F2 F9C1~837F F9C2~74C6 F9C3~6947 F9C4~5A37 " ++
  "F9C5~933D F9C6~6398 F9C7~A73E F9C8~924D F9C9~91D6 F9CA~8C89 F9CB~8B2F F9CC~85C3 " ++
  "F9CD~8474 F9CE~8163 F9CF~7CBF F9D0~6172 F9D1~A864 F9D2~97A4 F9D3~635B F9D4~A9A9 " ++
  "F9D5~9CBC F9D6~8BEC F9D7~6AAD F9D8~9A4D F9D9~9895 F9DA~91C3 F9DB~8654 F9DC~6356 " ++
  "F9DD~A7B4 F9DE~A5CF F9DF~9D7A F9E0~93CD F9E1~9293 F9E2~913A F9E3~8CFE F9E4~85DE " ++
  "F9E5~8403 F9E6~7A6D F9E7~7118 F9E8~7107 F9E9~681D F9EA~6308 F9EB~A6AC F9EC~8B32 " ++
  "F9ED~A5D0 F9EE~881E F9EF~8557 F9F0~73F6 F9F1~634E F9F2~5D9B F9F3~5B54 F9F4~925D " ++
  "F9F5~8C2A F9F6~780E F9F7~7F2C F9F8~7ED8 F9F9~7D67 F9FA~873A F9FB~8962 F9FC~6EA4 " ++
  "F9FD~AB3D F9FE~76C8 F9FF~A7C5 FA00~A7F9 FA01~9B5B FA02~972F FA03~7D2D FA04~9E7F " ++
  "FA05~8CE7 FA06~9352 FA07~6ACC FA08~71BC FA09~63BC FA0A~707F FA0B~9B38 FA0C~A8CC " ++
  "FA0D~A44D FA10~A1B6 FA12~939E FA15~A837 FA16~86EC FA17~834D FA18~80DC FA19~80BB " ++
  "FA1A~80B5 FA1B~808C FA1C~62C6 FA1D~7D5F FA1E~7A61 FA20~740E FA22~6F2A FA25~69ED " ++
  "FA26~6929 FA2A~613B FA2B~612F FA2C~6104 FA2D~5C79 FA2E~6950 FA2F~6378 FA30~AA82 " ++
  "FA31~A94A FA32~A8E5 FA33~A76A FA34~A750 FA35~A6E4 FA36~A499 FA37~A431 FA38~A3D0 " ++
  "FA39~A1F9 FA3A~A192 FA3B~9DD7 FA3C~9DCE FA3D~99A9 FA3E~98D6 FA3F~98B1 FA40~984E " ++
  "FA41~94F2 FA42~9460 FA43~93B2 FA44~91BF FA45~8CCE FA46~8C2C FA47~8B25 FA48~88DA " ++
  "FA49~881E FA4A~8628 FA4B~81BA FA4C~810E FA4D~8104 FA4E~8106 FA4F~80FF FA50~80FA " ++
  "FA51~80F4 FA52-FA53~80C5 FA54~8014 FA55~7FD4 FA56~7E96 FA57~7C63 FA58~7C4F FA59~7C18 " ++
  "FA5A~7AE8 FA5B~7A56 FA5C~786F FA5D~77E4 FA5E~77E5 FA5F~7608 FA60~7150 FA61~70CB " ++
  "FA62~6F61 FA63~6F2A FA64~6D91 FA65~6D5D FA66~6AB0 FA67~6A2F FA68~6385 FA69~626A " ++
  "FA6A~622F FA6B~99F6 FA6C+14882 FA6D~7855 FA70~AC4A FA71~A8BC FA72~A90A FA73~AAF3 " ++
  "FA74~A92F FA75~A8F5 FA76~A7AF FA77~A77D FA78~A4DB FA79~A524 FA7A~A4E1 FA7B~A499 " ++
  "FA7C~A222 FA7D~A1CA FA7E~A13A FA7F~A12B FA80~A01E FA81~9F59 FA82~9BB0 FA83~9BAA " ++
  "FA84~9B1B FA85~9AD8 FA86~99AE FA87~9939 FA88~9980 FA89~98FB FA8A~992A FA8B~9899 " ++
  "FA8C~9858 FA8D~96C9 FA8E~9672 FA8F~963D FA90~953A FA91~941D FA92~937B FA93~9378 " ++
  "FA94~933E FA95~8F1C FA96~8EDC FA97~8D56 FA98~8BBD FA99~8BCE FA9A~8B78 FA9B~8A7D " ++
  "FA9C~892E FA9D~82F6 FA9E~8869 FA9F~87F0 FAA0~8776 FAA1~8630 FAA2~859C FAA3~8568 " ++
  "FAA4~8487 FAA5~8486 FAA6~83DC FAA7~83CC FAA8~83B4 FAA9~835F FAAA~836A FAAB~81DF " ++
  "FAAC~7FFB FAAD~7EED FAAE~7E33 FAAF~7D54 FAB0~7CBC FAB1~7B73 FAB2~7AAD FAB3~7761 " ++
  "FAB4~76C5 FAB5~733C FAB6~7175 FAB7~7131 FAB8~7122 FAB9~6FFA FABA~6FC2 FABB~6FF0 " ++
  "FABC~6FBB FABD~6FBF FABE~6FD1 FABF~6F86 FAC0~6F36 FAC1~6DB9 FAC2~6B8A FAC3~6A51 " ++
  "FAC4~692B FAC5~684F FAC6~644A FAC7~63E4 FAC8~6372 FAC9~62EE FACA~62CB FACB~62C0 " ++
  "FACC~6291 FACD~5FBB FACE~5B32 FACF+12D7B FAD0+12D74 FAD1+13904 FAD2~BF35 FAD3~BABB " ++
  "FAD4~BA9B FAD5+15774 FAD6+161FA FAD7+183FC FAD8~5B95 FAD9~5B4B FB20~F53E FB21~F551 " ++
  "FB22-FB23~F54F FB24-FB26~F549 FB27~F53F FB28~F53E FB29~FAFE FB50~F4DF FB51~F4E0 " ++
  "FB52~F4D7 FB53~F4D8 FB54~F4D9 FB55~F4DA FB56~F4D8 FB57~F4D9 FB58~F4DA FB59~F4DB " ++
  "FB5A~F4DA FB5B~F4DB FB5C~F4DC FB5D~F4DD FB5E~F4E4 FB5F~F4E5 FB60~F4E6 FB61~F4E7 " ++
  "FB62~F4E3 FB63~F4E4 FB64~F4E5 FB65~F4E6 FB66~F4ED FB67~F4EE FB68~F4EF FB69~F4F0 " ++
  "FB6A~F4C6 FB6B~F4C7 FB6C~F4C8 FB6D~F4C9 FB6E~F4C8 FB6F~F4C9 FB70~F4CA FB71~F4CB " ++
  "FB72~F4EE FB73~F4EF FB74~F4F0 FB75~F4F1 FB76~F4F3 FB77~F4F4 FB78~F4F5 FB79~F4F6 " ++
  "FB7A~F4F4 FB7B~F4F5 FB7C~F4F6 FB7D-FB7E~F4F7 FB7F~F4F8 FB80~F4F9 FB81~F4FA FB82~F4F5 " ++
  "FB83~F4F6 FB84~F4F8 FB85~F4F9 FB86~F4F8 FB87~F4F9 FB88~F500 FB89~F501 FB8A~F4F2 " ++
  "FB8B~F4F3 FB8C~F4FB FB8D~F4FC FB8E~F4E5 FB8F~F4E6 FB90~F4E7 FB91~F4E8 FB92~F4E3 " ++
  "FB93~F4E4 FB94~F4E5 FB95~F4E6 FB96~F4E3 FB97~F4E4 FB98~F4E5 FB99~F4E6 FB9A~F4E9 " ++
  "FB9B~F4EA FB9C~F4EB FB9D~F4EC FB9E~F4E4 FB9F-FBA0~F4E5 FBA1~F4E6 FBA2~F4E7 FBA3~F4E8 " ++
  "FBA6~F4E5 FBA7~F4E6 FBA8~F4E7 FBA9~F4E8 FBAA~F4EC FBAB~F4ED FBAC~F4EE FBAD~F4EF " ++
  "FBAE~F4DC FBAF~F4DD FBD3~F526 FBD4~F527 FBD5~F528 FBD6~F529 FBD7~F510 FBD8~F511 " ++
  "FBD9~F513 FBDA~F514 FBDB~F513 FBDC~F514 FBDE~F513 FBDF~F514 FBE0~F51B FBE1~F51C " ++
  "FBE2~F519 FBE3~F51A FBE4~F514 FBE5~F515 FBE6~F516 FBE7~F517 FBE8~F59F FBE9~F5A0 " ++
  "FBFC~F530 FBFD~F531 FBFE~F532 FBFF~F533 FE10~FDE4 FE11-FE12~CE10 FE13-FE14~FDD9 " ++
  "FE15~FDF4 FE16~FDD7 FE17-FE18~CE01 FE31~DE1D FE32~DE1F FE33~FDD4 FE34~FDD5 " ++
  "FE35-FE36~FE0D FE37~FDBC FE38~FDBB FE39-FE3A~CE25 FE3B-FE3C~CE2B FE3D-FE3E~CE33 " ++
  "FE3F-FE40~CE37 FE41-FE44~CE35 FE47~FDEC FE48~FDEB FE4D~FDEE FE4E~FDEF FE4F~FDF0 " ++
  "FE50~FE24 FE51~CE50 FE52~FE24 FE54~FE19 FE55~FE1B FE56~FE17 FE57~FE36 FE58~DE44 " ++
  "FE59-FE5A~FE31 FE5B~FDE0 FE5C~FDDF FE5D-FE5E~CE49 FE5F~FE3C FE60~FE3A FE61-FE62~FE37 " ++
  "FE63~FE36 FE64~FE28 FE65~FE27 FE66~FE29 FE68~FE0C FE69-FE6A~FE45 FE6B~FE2B FE80~F85F " ++
  "FE8D~F866 FE8E-FE8F~F867 FE90~F868 FE91~F869 FE92-FE93~F86A FE94-FE95~F86B FE96~F86C " ++
  "FE97~F86D FE98-FE99~F86E FE9A~F86F FE9B~F870 FE9C-FE9D~F871 FE9E~F872 FE9F~F873 " ++
  "FEA0-FEA1~F874 FEA2~F875 FEA3~F876 FEA4-FEA5~F877 FEA6~F878 FEA7~F879 FEA8-FEA9~F87A " ++
  "FEAA-FEAB~F87B FEAC-FEAD~F87C FEAE-FEAF~F87D FEB0-FEB1~F87E FEB2~F87F FEB3~F880 " ++
  "FEB4-FEB5~F881 FEB6~F882 FEB7~F883 FEB8-FEB9~F884 FEBA~F885 FEBB~F886 FEBC-FEBD~F887 " ++
  "FEBE~F888 FEBF~F889 FEC0-FEC1~F88A FEC2~F88B FEC3~F88C FEC4-FEC5~F88D FEC6~F88E " ++
  "FEC7~F88F FEC8-FEC9~F890 FECA~F891 FECB~F892 FECC-FECD~F893 FECE~F894 FECF~F895 " ++
  "FED0~F896 FED1~F890 FED2~F891 FED3~F892 FED4-FED5~F893 FED6~F894 FED7~F895 " ++
  "FED8-FED9~F896 FEDA~F897 FEDB~F898 FEDC-FEDD~F899 FEDE~F89A FEDF~F89B FEE0-FEE1~F89C " ++
  "FEE2~F89D FEE3~F89E FEE4-FEE5~F89F FEE6~F8A0 FEE7~F8A1 FEE8-FEE9~F8A2 FEEA~F8A3 " ++
  "FEEB~F8A4 FEEC-FEED~F8A5 FEEE-FEEF~F8A6 FEF0-FEF1~F8A7 FEF2~F8A8 FEF3~F8A9 FEF4~F8AA " ++
  "FF01-FF5E~FEE0 FF5F-FF60~D5DA FF61~CF5F FF62-FF63~CF56 FF64~CF63 FF65~CE6A FF66~CE74 " ++
  "FF67~CEC6 FF68~CEC5 FF69~CEC4 FF6A~CEC3 FF6B~CEC2 FF6C~CE89 FF6D~CE88 FF6E~CE87 " ++
  "FF6F~CEAC FF70~CE74 FF71~CECF FF72~CECE FF73~CECD FF74~CECC FF75-FF76~CECB FF77~CECA " ++
  "FF78~CEC9 FF79~CEC8 FF7A~CEC7 FF7B~CEC6 FF7C~CEC5 FF7D~CEC4 FF7E~CEC3 FF7F~CEC2 " ++
  "FF80~CEC1 FF81~CEC0 FF82~CEBE FF83~CEBD FF84~CEBC FF85-FF8A~CEBB FF8B~CEB9 FF8C~CEB7 " ++
  "FF8D~CEB5 FF8E~CEB3 FF8F-FF93~CEB1 FF94~CEB0 FF95~CEAF FF96-FF9B~CEAE FF9C~CEAD " ++
  "FF9D~CEAA FF9E-FF9F~CF05 FFA0~EE40 FFA1-FFA2~EEA1 FFA3~EDF9 FFA4~EEA2 FFA5-FFA6~EDF9 " ++
  "FFA7-FFA9~EEA4 FFAA-FFAF~EDFA FFB0~EE96 FFB1-FFB3~EEAB FFB4~EE93 FFB5-FFBE~EEAC " ++
  "FFC2-FFC7~EE61 FFCA-FFCF~EE63 FFD2-FFD7~EE65 FFDA-FFDC~EE67 FFE0-FFE1~FF3E FFE2~FF36 " ++
  "FFE4~FF3E FFE5~FF40 FFE6~DF3D FFE8~DAE6 FFE9-FFEC~DE59 FFED~DA4D FFEE~DA23 " ++
  "10781-10782~104B1 10783~1069D 10784~104EB 10785~10532 10787~104E4 10788~5C22 10789~104E4 " ++
  "1078A~104E6 1078B-1078C~10535 1078D~E9FC 1078E~10536 1078F~10531 10790~104E7 10791~1052D " ++
  "10792~10530 10793~10533 10794~104F9 10795~1066E 10796~104FA 10797~10530 10798~10514 " ++
  "10799-1079A~104EF 1079B~1052F 1079C+D768 1079D~600F 1079E~10530 1079F+D766 107A0~10512 " ++
  "107A1+D765 107A2~106AA 107A3-107A4~1052D 107A5~10734 107A6~1052C 107A7+D761 " ++
  "107A8-107A9~1052B 107AA~1052A 107AB~10503 107AC~10506 107AD~5C46 107AE~10507 107AF~10527 " ++
  "107B0~DB3F 107B2~10523 107B3-107B4~10512 107B5~1051D 107B6-107B8~105F6 107B9+D751 " ++
  "107BA+D764 1D400-1D419~1D3BF 1D41A-1D433~1D3B9 1D434-1D44D~1D3F3 1D44E-1D454~1D3ED " ++
  "1D456-1D467~1D3ED 1D468-1D481~1D427 1D482-1D49B~1D421 1D49C-1D49E/2~1D45B 1D49F~1D45B " ++
  "1D4A2~1D45B 1D4A5-1D4A6~1D45B 1D4A9-1D4AC~1D45B 1D4AE-1D4B5~1D45B 1D4B6-1D4B9~1D455 " ++
  "1D4BB-1D4BD/2~1D455 1D4BE-1D4C3~1D455 1D4C5-1D4CF~1D455 1D4D0-1D4E9~1D48F " ++
  "1D4EA-1D503~1D489 1D504-1D505~1D4C3 1D507-1D50A~1D4C3 1D50D-1D514~1D4C3 " ++
  "1D516-1D51C~1D4C3 1D51E-1D537~1D4BD 1D538-1D539~1D4F7 1D53B-1D53E~1D4F7 " ++
  "1D540-1D544~1D4F7 1D546~1D4F7 1D54A-1D550~1D4F7 1D552-1D56B~1D4F1 1D56C-1D585~1D52B " ++
  "1D586-1D59F~1D525 1D5A0-1D5B9~1D55F 1D5BA-1D5D3~1D559 1D5D4-1D5ED~1D593 " ++
  "1D5EE-1D607~1D58D 1D608-1D621~1D5C7 1D622-1D63B~1D5C1 1D63C-1D655~1D5FB " ++
  "1D656-1D66F~1D5F5 1D670-1D689~1D62F 1D68A-1D6A3~1D629 1D6A4~1D573 1D6A5~1D46E " ++
  "1D6A8-1D6B8~1D317 1D6B9~1D321 1D6BA-1D6C0~1D317 1D6C1~1B4BA 1D6C2-1D6DA~1D311 " ++
  "1D6DB~1B4D9 1D6DC~1D327 1D6DD~1D325 1D6DE~1D324 1D6DF~1D319 1D6E0~1D31F 1D6E1~1D321 " ++
  "1D6E2-1D6F2~1D351 1D6F3~1D35B 1D6F4-1D6FA~1D351 1D6FB~1B4F4 1D6FC-1D714~1D34B " ++
  "1D715~1B513 1D716~1D361 1D717~1D35F 1D718~1D35E 1D719~1D353 1D71A~1D359 1D71B~1D35B " ++
  "1D71C-1D72C~1D38B 1D72D~1D395 1D72E-1D734~1D38B 1D735~1B52E 1D736-1D74E~1D385 " ++
  "1D74F~1B54D 1D750~1D39B 1D751~1D399 1D752~1D398 1D753~1D38D 1D754~1D393 1D755~1D395 " ++
  "1D756-1D766~1D3C5 1D767~1D3CF 1D768-1D76E~1D3C5 1D76F~1B568 1D770-1D788~1D3BF " ++
  "1D789~1B587 1D78A~1D3D5 1D78B~1D3D3 1D78C~1D3D2 1D78D~1D3C7 1D78E~1D3CD 1D78F~1D3CF " ++
  "1D790-1D7A0~1D3FF 1D7A1~1D409 1D7A2-1D7A8~1D3FF 1D7A9~1B5A2 1D7AA-1D7C2~1D3F9 " ++
  "1D7C3~1B5C1 1D7C4~1D40F 1D7C5~1D40D 1D7C6~1D40C 1D7C7~1D401 1D7C8~1D407 1D7C9~1D409 " ++
  "1D7CA-1D7CB~1D3EE 1D7CE-1D7D7~1D79E 1D7D8-1D7E1~1D7A8 1D7E2-1D7EB~1D7B2 " ++
  "1D7EC-1D7F5~1D7BC 1D7F6-1D7FF~1D7C6 1EE00-1EE01~1E7D9 1EE02~1E7D6 1EE03~1E7D4 " ++
  "1EE05~1E7BD 1EE06~1E7D4 1EE07~1E7DA 1EE08~1E7D1 1EE09~1E7BF 1EE0A-1EE0D~1E7C7 " ++
  "1EE0E~1E7DB 1EE0F~1E7D6 1EE10~1E7CF 1EE11~1E7DC 1EE12~1E7D0 1EE13~1E7E2 1EE14~1E7E0 " ++
  "1EE15-1EE16~1E7EB 1EE17~1E7E9 1EE18~1E7E8 1EE19~1E7E3 1EE1A~1E7E2 1EE1B~1E7E1 " ++
  "1EE1C~1E7AE 1EE1D~1E763 1EE1E~1E77D 1EE1F~1E7B0 1EE21~1E7F9 1EE22~1E7F6 1EE24~1E7DD " ++
  "1EE27~1E7FA 1EE29~1E7DF 1EE2A-1EE2D~1E7E7 1EE2E~1E7FB 1EE2F~1E7F6 1EE30~1E7EF " ++
  "1EE31~1E7FC 1EE32~1E7F0 1EE34~1E800 1EE35-1EE36~1E80B 1EE37~1E809 1EE39~1E803 " ++
  "1EE3B~1E801 1EE42~1E816 1EE47~1E81A 1EE49~1E7FF 1EE4B-1EE4D/2~1E807 1EE4E~1E81B " ++
  "1EE4F~1E816 1EE51~1E81C 1EE52~1E810 1EE54~1E820 1EE57~1E829 1EE59~1E823 1EE5B~1E821 " ++
  "1EE5D~1E7A3 1EE5F~1E7F0 1EE61~1E839 1EE62~1E836 1EE64~1E81D 1EE67~1E83A 1EE68~1E831 " ++
  "1EE69~1E81F 1EE6A-1EE6C/2~1E827 1EE6D~1E827 1EE6E~1E83B 1EE6F~1E836 1EE70~1E82F " ++
  "1EE71~1E83C 1EE72~1E830 1EE74~1E840 1EE75-1EE76~1E84B 1EE77~1E849 1EE79~1E843 " ++
  "1EE7A~1E842 1EE7B~1E841 1EE7C~1E80E 1EE7E~1E7DD 1EE80-1EE81~1E859 1EE82~1E856 " ++
  "1EE83~1E854 1EE84-1EE85~1E83D 1EE86~1E854 1EE87~1E85A 1EE88~1E851 1EE89~1E83F " ++
  "1EE8B-1EE8D~1E847 1EE8E~1E85B 1EE8F~1E856 1EE90~1E84F 1EE91~1E85C 1EE92~1E850 " ++
  "1EE93~1E862 1EE94~1E860 1EE95-1EE96~1E86B 1EE97~1E869 1EE98~1E868 1EE99~1E863 " ++
  "1EE9A~1E862 1EE9B~1E861 1EEA1~1E879 1EEA2~1E876 1EEA3~1E874 1EEA5~1E85D 1EEA6~1E874 " ++
  "1EEA7~1E87A 1EEA8~1E871 1EEA9~1E85F 1EEAB-1EEAD~1E867 1EEAE~1E87B 1EEAF~1E876 " ++
  "1EEB0~1E86F 1EEB1~1E87C 1EEB2~1E870 1EEB3~1E882 1EEB4~1E880 1EEB5-1EEB6~1E88B " ++
  "1EEB7~1E889 1EEB8~1E888 1EEB9~1E883 1EEBA~1E882 1EEBB~1E881 1F12B~1F0E8 1F12C~1F0DA " ++
  "1F130-1F149~1F0EF 1F202~1C14D 1F210~18FC5 1F211~196BA 1F212~19E46 1F214~1A388 " ++
  "1F215~198FB 1F216~16833 1F217~198EE 1F218~1A374 1F219~18BF9 1F21A~180F9 1F21B~18C82 " ++
  "1F21C~19FCF 1F21D~19291 1F21E~1A091 1F21F~18C6F 1F220~1A003 1F221~174DF 1F222~17D03 " ++
  "1F223~1657A 1F224~19934 1F225~19DEC 1F226~18312 1F227~18F92 1F228~18ED3 1F229~1A429 " ++
  "1F22A~1A421 1F22B~161E1 1F22C~19446 1F22D~1A400 1F22E~19E3B 1F22F~18F28 1F230~164C0 " ++
  "1F231~18FDE 1F232~178B1 1F233~177B9 1F234~19E2C 1F235~183B5 1F236~18B2D 1F237~18B2F " ++
  "1F238~17D05 1F239~19FC7 1F23A~19C84 1F23B~160EE 1F250~192B9 1F251~19E62 " ++
  "1FBF0-1FBF9~1FBC0 2F800~2A9C3 2F801~2A9C9 2F802~2A9C1 2F803~F6E1 2F804~2A8A4 2F805~2A857 " ++
  "2F806~2A84B 2F807~2A805 2F808~2A78E 2F809~2A770 2F80A~2A723 2F80B~2A73C 2F80C~2C36E " ++
  "2F80D~F1D3 2F80E~2A6C1 2F80F~2A6BB 2F810~2A6AC 2F811~2A69A 2F812~F2F6 2F813~2C35A " ++
  "2F814~2A6AD 2F815~2A688 2F816~F2CB 2F817~2A680 2F818~2A674 2F819~2A94D 2F81A~2A66E " ++
  "2F81B~2A666 2F81C~663D 2F81D~2A628 2F81E~2A61B 2F81F~2C340 2F820~2A5E5 2F821~2A5DB " ++
  "2F822~2A5B0 2F823~2A5AC 2F824~2C30F 2F825~2A55E 2F826~2A55D 2F827~2A543 2F828~2A52E " ++
  "2F829-2F82A~2A524 2F82B~2A514 2F82C~2A4E3 2F82D~2A4DC 2F82E~2A4D4 2F82F~2A4BC " ++
  "2F830~2A4B3 2F831~2A4B2 2F832~2A4B3 2F833~2A4B4 2F834~EE08 2F835~287C5 2F836~2A46C " ++
  "2F837~2A458 2F838~ECD5 2F839~2A44E 2F83A~2A449 2F83B~2A435 2F83C~2A39E 2F83D~2A405 " ++
  "2F83E~2A3F6 2F83F~2A3D7 2F840~2A39E 2F841~2A34B 2F842~2A332 2F843~2A2F0 2F844~2A2E1 " ++
  "2F845~2A2C1 2F846~2A2C2 2F847~2A2AE 2F848~2A29D 2F849~2A296 2F84A~2A288 2F84B~2A135 " ++
  "2F84C~2A246 2F84D~2A136 2F84E~2A1FD 2F84F~2A1DB 2F850~2A649 2F851~29F63 2F852~2A084 " ++
  "2F853~2A05F 2F854~2A047 2F855~2A0CA 2F856~2A024 2F857~2A026 2F858~29FAC 2F859~E375 " ++
  "2F85A~29F68 2F85B~29F64 2F85C~29F56 2F85D~29F43 2F85E~29F3C 2F85F~29EFD 2F860~E1B8 " ++
  "2F861~E177 2F862~29E76 2F863~29E48 2F864~29E3D 2F865~29E8D 2F866~29E00 2F867~2C179 " ++
  "2F868~2C16C 2F869~29D61 2F86A~29D2C 2F86B~29D2D 2F86C~DEA4 2F86D~29CAA 2F86E~29C96 " ++
  "2F86F~29C88 2F870~29C7D 2F871~DD59 2F872~29C73 2F873~29C6D 2F874~29921 2F875~29C53 " ++
  "2F876~2C0F5 2F877~29C17 2F878~29C0A 2F879~29BB9 2F87A~29BED 2F87B~DA97 2F87C~29B39 " ++
  "2F87D~DA97 2F87E~29B10 2F87F~29B14 2F880~29B04 2F881-2F882~29AA0 2F883~2C054 2F884~29A87 " ++
  "2F885~29A5D 2F886~29A49 2F887~29A1E 2F888~2C026 2F889~D706 2F88A~2C00E 2F88B~299DB " ++
  "2F88C~299D9 2F88D~299D7 2F88E~299C4 2F88F~54FD 2F890~29992 2F891~D560 2F892~D561 " ++
  "2F893~27692 2F894~29972 2F895~29973 2F896~2BFCF 2F897~C5DF 2F898~96BE 2F899~29937 " ++
  "2F89A~2992F 2F89B~2BFB8 2F89C~29902 2F89D~298D0 2F89E~298C7 2F89F~298A6 2F8A0~2981F " ++
  "2F8A1~2BF67 2F8A2~2BF86 2F8A3~2980F 2F8A4~D1D0 2F8A5~297DE 2F8A6~2975E 2F8A7~2975B " ++
  "2F8A8~2975A 2F8A9~2975D 2F8AA~29730 2F8AB~2971D 2F8AC~296FA 2F8AD~29709 2F8AE~296FF " ++
  "2F8AF~296D1 2F8B0~296BE 2F8B1~296BB 2F8B2~296A2 2F8B3~29698 2F8B4~29657 2F8B5~29604 " ++
  "2F8B6~295E2 2F8B7~29567 2F8B8~CDAC 2F8B9~2957C 2F8BA~295BE 2F8BB~29553 2F8BC~29539 " ++
  "2F8BD~294D9 2F8BE~CCCD 2F8BF~2949D 2F8C0~294FB 2F8C1~29518 2F8C2~2BE94 2F8C3~2945A " ++
  "2F8C4~29446 2F8C5~29428 2F8C6~2944F 2F8C7~2BE5B 2F8C8~29379 2F8C9~2935D 2F8CA~C8C0 " ++
  "2F8CB~292E8 2F8CC~291D4 2F8CD~29284 2F8CE~2BDB5 2F8CF~2923E 2F8D0~2BDC8 2F8D1~2BDED " ++
  "2F8D2~2A740 2F8D3~2A73E 2F8D4~291D4 2F8D5~29239 2F8D6~27829 2F8D7~2B4FE 2F8D8~291C1 " ++
  "2F8D9~291BE 2F8DA~291B9 2F8DB~2917D 2F8DC~29189 2F8DD~C51A 2F8DE~2BD95 2F8DF~290E5 " ++
  "2F8E0~2915B 2F8E1~2908F 2F8E2~2905D 2F8E3~C476 2F8E4~29056 2F8E5~290C6 2F8E6~28FD2 " ++
  "2F8E7~2BD4A 2F8E8~28FA6 2F8E9~28F46 2F8EA~28F00 2F8EB~28E43 2F8EC~C249 2F8ED~28E12 " ++
  "2F8EE~2BCD6 2F8EF~28DCE 2F8F0~C049 2F8F1~28D9D 2F8F2~2BCA4 2F8F3~28D81 2F8F4~28D55 " ++
  "2F8F5-2F8F6~28D3B 2F8F7~BE6A 2F8F8~DBED 2F8F9~BDFF 2F8FA~28CAC 2F8FB~BC3F 2F8FC~28C3D " ++
  "2F8FD~28C30 2F8FE~28C97 2F8FF~28BE9 2F900~28BC2 2F901~28B8A 2F902~28BC1 2F903~28B9A " ++
  "2F904~28B8C 2F905~28B80 2F906~BBE8 2F907~28BD3 2F908~28AD9 2F909~28A9B 2F90A~2BBD7 " ++
  "2F90B~28A40 2F90C~28A45 2F90D~BA3C 2F90E~28B15 2F90F~289A1 2F910~B9B2 2F911~B983 " ++
  "2F912~2894C 2F913~288DA 2F914~288F6 2F915~288FA 2F916~2BB80 2F917~288CD 2F918~2889B " ++
  "2F919~288A2 2F91A~2886D 2F91B~F3F6 2F91C~287D7 2F91D~B6BA 2F91E~28782 2F91F~B574 " ++
  "2F920~286F8 2F921~286EC 2F922~286D2 2F923~B31B 2F924~286A4 2F925~28690 2F926~B1F1 " ++
  "2F927~B113 2F928~285AE 2F929~2859E 2F92A~2BA7E 2F92B~28586 2F92C~2BA74 2F92D~2BA75 " ++
  "2F92E~284E7 2F92F~284D3 2F930~284BF 2F931~284AC 2F932~28468 2F933~2BA18 2F934~28410 " ++
  "2F935~ACFF 2F936~283F8 2F937~ACA5 2F938~283C8 2F939~D79A 2F93A~2832A 2F93B~A99A " ++
  "2F93C~A984 2F93D~A8F9 2F93E~2B942 2F93F~2B937 2F940~2824C 2F941~A84E 2F942~A850 " ++
  "2F943~A82A 2F944~A811 2F945-2F946~28227 2F947~28228 2F948~281FE 2F949~2B910 2F94A~281BF " ++
  "2F94B~2B905 2F94C~2B8B6 2F94D~A530 2F94E~28100 2F94F~280C3 2F950~28084 2F951~2B86E " ++
  "2F952~A32C 2F953~27FFD 2F954~A2BA 2F955~A290 2F956~27FC7 2F957~27F6C 2F958~2B829 " ++
  "2F959~27F19 2F95A~27F10 2F95B~27F0C 2F95C~9FE0 2F95D~9EB6 2F95E~9EB7 2F95F~27E71 " ++
  "2F960~2B75E 2F961~9DB6 2F962~27D9C 2F963~27D9A 2F964~2B73D 2F965~9CE5 2F966~27C94 " ++
  "2F967~2B6C7 2F968~27C80 2F969~27C86 2F96A~27C6A 2F96B~99E5 2F96C~27C09 2F96D~2B66C " ++
  "2F96E~27BA7 2F96F~27B6D 2F970~27B2B 2F971~2B63D 2F972~974A 2F973~972C 2F974~2B61B " ++
  "2F975~969C 2F976~279FC 2F977~9639 2F978~279E3 2F979~2797F 2F97A~27975 2F97B~94A1 " ++
  "2F97C~9459 2F97D~2791D 2F97E~93D6 2F97F~2790F 2F980~C621 2F981~2B5AC 2F982~278D0 " ++
  "2F983~27880 2F984~2B579 2F985~27847 2F986~29ED1 2F987~91E0 2F988~91D3 2F989~C5F6 " ++
  "2F98A~C5EE 2F98B~2778A 2F98C~27788 2F98D~269EF 2F98E~2B523 2F98F~276FE 2F990~27705 " ++
  "2F991~276F4 2F992~2A6DF 2F993~276E2 2F994~276E1 2F995~276D8 2F996~276B0 2F997~8E5B " ++
  "2F998~276B3 2F999~2767C 2F99A~27637 2F99B~275EE 2F99C~27679 2F99D~275E0 2F99E~275B7 " ++
  "2F99F~27548 2F9A0~2764D 2F9A1~275D7 2F9A2~275D6 2F9A3~275C7 2F9A4~8D6E 2F9A5~8C3A " ++
  "2F9A6~8CD1 2F9A7~2B47C 2F9A8~274B7 2F9A9~274B6 2F9AA~27494 2F9AB~85E1 2F9AC~27448 " ++
  "2F9AD~8A81 2F9AE~2B451 2F9AF~2B44E 2F9B0~89FF 2F9B1~88DF 2F9B2~2B447 2F9B3~27363 " ++
  "2F9B4~27358 2F9B5~2734E 2F9B6~2734D 2F9B7~2730E 2F9B8~27330 2F9B9~272AB 2F9BA~272D8 " ++
  "2F9BB~27242 2F9BC~27294 2F9BD~27252 2F9BE~27238 2F9BF~2B3E8 2F9C0~271DF 2F9C1~271C0 " ++
  "2F9C2~2B3C9 2F9C3~27163 2F9C4~27161 2F9C5~835E 2F9C6~270EF 2F9C7~270E9 2F9C8~2B393 " ++
  "2F9C9~270CF 2F9CA~2C50F 2F9CB~811D 2F9CC~8066 2F9CD~2B30F 2F9CE~2B307 2F9CF~26F2F " ++
  "2F9D0~26EE3 2F9D1~26E47 2F9D2~26D7D 2F9D3~7D2B 2F9D4~26D29 2F9D5~26D14 2F9D6~26CBB " ++
  "2F9D7~26C60 2F9D8~7AA9 2F9D9~F1D5 2F9DA~26C0F 2F9DB~26C1F 2F9DC~26BEC 2F9DD~F0FF " ++
  "2F9DE~26B0A 2F9DF~26AA7 2F9E0~740E 2F9E1~73F4 2F9E2~2694E 2F9E3~268F2 2F9E4~268D3 " ++
  "2F9E5~72B7 2F9E6~268CB 2F9E7~267AF 2F9E8-2F9E9~26711 2F9EA~2676E 2F9EB~265F2 2F9EC~265D7 " ++
  "2F9ED~6DF3 2F9EE~26463 2F9EF~2B05A 2F9F0~26439 2F9F1~6C7A 2F9F2~2B00C 2F9F3~26330 " ++
  "2F9F4~29C42 2F9F5~262D2 2F9F6~68B1 2F9F7~67DD 2F9F8~2AF8A 2F9F9~2AF83 2F9FA~2621A " ++
  "2F9FB~65F1 2F9FC~2AF4A 2F9FD~6567 2F9FE~261F3 2F9FF~261F4 2FA00~261D7 2FA01~644B " ++
  "2FA02~26120 2FA03~2AED0 2FA04~260DB 2FA05~2605E 2FA06~26044 2FA07~26009 2FA08~2AE3A " ++
  "2FA09~5ED9 2FA0A~25EF8 2FA0B~25DCB 2FA0C~25D0F 2FA0D~2AD3F 2FA0E~2AD21 2FA0F~25CA8 " ++
  "2FA10~5942 2FA11~2AD19 2FA12~590D 2FA13~5805 2FA14~5783 2FA15~25B5A 2FA16~2ACC0 " ++
  "2FA17~25B1E 2FA18~25B1A 2FA19~25B14 2FA1A~25B0B 2FA1B~25B05 2FA1C~25AE1 2FA1D~541D")

/-- Characters that stand for several others and are not made from them. -/
def spreads : String :=
  ("A8=20,308 AF=20,304 B4=20,301 B8=20,327 BC=31,2044,34 BD=31,2044,32 BE=33,2044,34 " ++
  "132=49,4A 133=69,6A 13F=4C,B7 140=6C,B7 149=2BC,6E 1C4=44,5A,30C 1C5=44,7A,30C " ++
  "1C6=64,7A,30C 1C7=4C,4A 1C8=4C,6A 1C9=6C,6A 1CA=4E,4A 1CB=4E,6A 1CC=6E,6A 1F1=44,5A " ++
  "1F2=44,7A 1F3=64,7A 2D8=20,306 2D9=20,307 2DA=20,30A 2DB=20,328 2DC=20,303 2DD=20,30B " ++
  "344=308,301 37A=20,345 384=20,301 587=565,582 675=627,674 676=648,674 677=6C7,674 " ++
  "678=64A,674 958=915,93C 959=916,93C 95A=917,93C 95B=91C,93C 95C=921,93C 95D=922,93C " ++
  "95E=92B,93C 95F=92F,93C 9DC=9A1,9BC 9DD=9A2,9BC 9DF=9AF,9BC A33=A32,A3C A36=A38,A3C " ++
  "A59=A16,A3C A5A=A17,A3C A5B=A1C,A3C A5E=A2B,A3C B5C=B21,B3C B5D=B22,B3C E33=E4D,E32 " ++
  "EB3=ECD,EB2 EDC=EAB,E99 EDD=EAB,EA1 F43=F42,FB7 F4D=F4C,FB7 F52=F51,FB7 F57=F56,FB7 " ++
  "F5C=F5B,FB7 F69=F40,FB5 F73=F71,F72 F75=F71,F74 F76=FB2,F80 F77=FB2,F71,F80 F78=FB3,F80 " ++
  "F79=FB3,F71,F80 F81=F71,F80 F93=F92,FB7 F9D=F9C,FB7 FA2=FA1,FB7 FA7=FA6,FB7 FAC=FAB,FB7 " ++
  "FB9=F90,FB5 1E9A=61,2BE 1F71=3B1,301 1F73=3B5,301 1F75=3B7,301 1F77=3B9,301 1F79=3BF,301 " ++
  "1F7B=3C5,301 1F7D=3C9,301 1FBB=391,301 1FBD=20,313 1FBF=20,313 1FC0=20,342 1FC9=395,301 " ++
  "1FCB=397,301 1FD3=3B9,308,301 1FDB=399,301 1FE3=3C5,308,301 1FEB=3A5,301 1FEE=20,308,301 " ++
  "1FF9=39F,301 1FFB=3A9,301 1FFD=20,301 1FFE=20,314 2017=20,333 2025=2E,2E 2026=2E,2E,2E " ++
  "2033=2032,2032 2034=2032,2032,2032 2036=2035,2035 2037=2035,2035,2035 203C=21,21 " ++
  "203E=20,305 2047=3F,3F 2048=3F,21 2049=21,3F 2057=2032,2032,2032,2032 20A8=52,73 " ++
  "2100=61,2F,63 2101=61,2F,73 2103=B0,43 2105=63,2F,6F 2106=63,2F,75 2109=B0,46 2116=4E,6F " ++
  "2120=53,4D 2121=54,45,4C 2122=54,4D 212B=41,30A 213B=46,41,58 2150=31,2044,37 " ++
  "2151=31,2044,39 2152=31,2044,31,30 2153=31,2044,33 2154=32,2044,33 2155=31,2044,35 " ++
  "2156=32,2044,35 2157=33,2044,35 2158=34,2044,35 2159=31,2044,36 215A=35,2044,36 " ++
  "215B=31,2044,38 215C=33,2044,38 215D=35,2044,38 215E=37,2044,38 215F=31,2044 2161=49,49 " ++
  "2162=49,49,49 2163=49,56 2165=56,49 2166=56,49,49 2167=56,49,49,49 2168=49,58 216A=58,49 " ++
  "216B=58,49,49 2171=69,69 2172=69,69,69 2173=69,76 2175=76,69 2176=76,69,69 " ++
  "2177=76,69,69,69 2178=69,78 217A=78,69 217B=78,69,69 2189=30,2044,33 222C=222B,222B " ++
  "222D=222B,222B,222B 222F=222E,222E 2230=222E,222E,222E 2469=31,30 246A=31,31 246B=31,32 " ++
  "246C=31,33 246D=31,34 246E=31,35 246F=31,36 2470=31,37 2471=31,38 2472=31,39 2473=32,30 " ++
  "2474=28,31,29 2475=28,32,29 2476=28,33,29 2477=28,34,29 2478=28,35,29 2479=28,36,29 " ++
  "247A=28,37,29 247B=28,38,29 247C=28,39,29 247D=28,31,30,29 247E=28,31,31,29 " ++
  "247F=28,31,32,29 2480=28,31,33,29 2481=28,31,34,29 2482=28,31,35,29 2483=28,31,36,29 " ++
  "2484=28,31,37,29 2485=28,31,38,29 2486=28,31,39,29 2487=28,32,30,29 2488=31,2E " ++
  "2489=32,2E 248A=33,2E 248B=34,2E 248C=35,2E 248D=36,2E 248E=37,2E 248F=38,2E 2490=39,2E " ++
  "2491=31,30,2E 2492=31,31,2E 2493=31,32,2E 2494=31,33,2E 2495=31,34,2E 2496=31,35,2E " ++
  "2497=31,36,2E 2498=31,37,2E 2499=31,38,2E 249A=31,39,2E 249B=32,30,2E 249C=28,61,29 " ++
  "249D=28,62,29 249E=28,63,29 249F=28,64,29 24A0=28,65,29 24A1=28,66,29 24A2=28,67,29 " ++
  "24A3=28,68,29 24A4=28,69,29 24A5=28,6A,29 24A6=28,6B,29 24A7=28,6C,29 24A8=28,6D,29 " ++
  "24A9=28,6E,29 24AA=28,6F,29 24AB=28,70,29 24AC=28,71,29 24AD=28,72,29 24AE=28,73,29 " ++
  "24AF=28,74,29 24B0=28,75,29 24B1=28,76,29 24B2=28,77,29 24B3=28,78,29 24B4=28,79,29 " ++
  "24B5=28,7A,29 2A0C=222B,222B,222B,222B 2A74=3A,3A,3D 2A75=3D,3D 2A76=3D,3D,3D " ++
  "2ADC=2ADD,338 309B=20,3099 309C=20,309A 309F=3088,308A 30FF=30B3,30C8 3200=28,1100,29 " ++
  "3201=28,1102,29 3202=28,1103,29 3203=28,1105,29 3204=28,1106,29 3205=28,1107,29 " ++
  "3206=28,1109,29 3207=28,110B,29 3208=28,110C,29 3209=28,110E,29 320A=28,110F,29 " ++
  "320B=28,1110,29 320C=28,1111,29 320D=28,1112,29 320E=28,1100,1161,29 " ++
  "320F=28,1102,1161,29 3210=28,1103,1161,29 3211=28,1105,1161,29 3212=28,1106,1161,29 " ++
  "3213=28,1107,1161,29 3214=28,1109,1161,29 3215=28,110B,1161,29 3216=28,110C,1161,29 " ++
  "3217=28,110E,1161,29 3218=28,110F,1161,29 3219=28,1110,1161,29 321A=28,1111,1161,29 " ++
  "321B=28,1112,1161,29 321C=28,110C,116E,29 321D=28,110B,1169,110C,1165,11AB,29 " ++
  "321E=28,110B,1169,1112,116E,29 3220=28,4E00,29 3221=28,4E8C,29 3222=28,4E09,29 " ++
  "3223=28,56DB,29 3224=28,4E94,29 3225=28,516D,29 3226=28,4E03,29 3227=28,516B,29 " ++
  "3228=28,4E5D,29 3229=28,5341,29 322A=28,6708,29 322B=28,706B,29 322C=28,6C34,29 " ++
  "322D=28,6728,29 322E=28,91D1,29 322F=28,571F,29 3230=28,65E5,29 3231=28,682A,29 " ++
  "3232=28,6709,29 3233=28,793E,29 3234=28,540D,29 3235=28,7279,29 3236=28,8CA1,29 " ++
  "3237=28,795D,29 3238=28,52B4,29 3239=28,4EE3,29 323A=28,547C,29 323B=28,5B66,29 " ++
  "323C=28,76E3,29 323D=28,4F01,29 323E=28,8CC7,29 323F=28,5354,29 3240=28,796D,29 " ++
  "3241=28,4F11,29 3242=28,81EA,29 3243=28,81F3,29 3250=50,54,45 3251=32,31 3252=32,32 " ++
  "3253=32,33 3254=32,34 3255=32,35 3256=32,36 3257=32,37 3258=32,38 3259=32,39 325A=33,30 " ++
  "325B=33,31 325C=33,32 325D=33,33 325E=33,34 325F=33,35 326E=1100,1161 326F=1102,1161 " ++
  "3270=1103,1161 3271=1105,1161 3272=1106,1161 3273=1107,1161 3274=1109,1161 " ++
  "3275=110B,1161 3276=110C,1161 3277=110E,1161 3278=110F,1161 3279=1110,1161 " ++
  "327A=1111,1161 327B=1112,1161 327C=110E,1161,11B7,1100,1169 327D=110C,116E,110B,1174 " ++
  "327E=110B,116E 32B1=33,36 32B2=33,37 32B3=33,38 32B4=33,39 32B5=34,30 32B6=34,31 " ++
  "32B7=34,32 32B8=34,33 32B9=34,34 32BA=34,35 32BB=34,36 32BC=34,37 32BD=34,38 32BE=34,39 " ++
  "32BF=35,30 32C0=31,6708 32C1=32,6708 32C2=33,6708 32C3=34,6708 32C4=35,6708 32C5=36,6708 " ++
  "32C6=37,6708 32C7=38,6708 32C8=39,6708 32C9=31,30,6708 32CA=31,31,6708 32CB=31,32,6708 " ++
  "32CC=48,67 32CD=65,72,67 32CE=65,56 32CF=4C,54,44 32FF=4EE4,548C " ++
  "3300=30A2,30CF,309A,30FC,30C8 3301=30A2,30EB,30D5,30A1 3302=30A2,30F3,30D8,309A,30A2 " ++
  "3303=30A2,30FC,30EB 3304=30A4,30CB,30F3,30AF,3099 3305=30A4,30F3,30C1 " ++
  "3306=30A6,30A9,30F3 3307=30A8,30B9,30AF,30FC,30C8,3099 3308=30A8,30FC,30AB,30FC " ++
  "3309=30AA,30F3,30B9 330A=30AA,30FC,30E0 330B=30AB,30A4,30EA 330C=30AB,30E9,30C3,30C8 " ++
  "330D=30AB,30ED,30EA,30FC 330E=30AB,3099,30ED,30F3 330F=30AB,3099,30F3,30DE " ++
  "3310=30AD,3099,30AB,3099 3311=30AD,3099,30CB,30FC 3312=30AD,30E5,30EA,30FC " ++
  "3313=30AD,3099,30EB,30BF,3099,30FC 3314=30AD,30ED 3315=30AD,30ED,30AF,3099,30E9,30E0 " ++
  "3316=30AD,30ED,30E1,30FC,30C8,30EB 3317=30AD,30ED,30EF,30C3,30C8 " ++
  "3318=30AF,3099,30E9,30E0 3319=30AF,3099,30E9,30E0,30C8,30F3 " ++
  "331A=30AF,30EB,30BB,3099,30A4,30ED 331B=30AF,30ED,30FC,30CD 331C=30B1,30FC,30B9 " ++
  "331D=30B3,30EB,30CA 331E=30B3,30FC,30DB,309A 331F=30B5,30A4,30AF,30EB " ++
  "3320=30B5,30F3,30C1,30FC,30E0 3321=30B7,30EA,30F3,30AF,3099 3322=30BB,30F3,30C1 " ++
  "3323=30BB,30F3,30C8 3324=30BF,3099,30FC,30B9 3325=30C6,3099,30B7 3326=30C8,3099,30EB " ++
  "3327=30C8,30F3 3328=30CA,30CE 3329=30CE,30C3,30C8 332A=30CF,30A4,30C4 " ++
  "332B=30CF,309A,30FC,30BB,30F3,30C8 332C=30CF,309A,30FC,30C4 " ++
  "332D=30CF,3099,30FC,30EC,30EB 332E=30D2,309A,30A2,30B9,30C8,30EB " ++
  "332F=30D2,309A,30AF,30EB 3330=30D2,309A,30B3 3331=30D2,3099,30EB " ++
  "3332=30D5,30A1,30E9,30C3,30C8,3099 3333=30D5,30A3,30FC,30C8 " ++
  "3334=30D5,3099,30C3,30B7,30A7,30EB 3335=30D5,30E9,30F3 3336=30D8,30AF,30BF,30FC,30EB " ++
  "3337=30D8,309A,30BD 3338=30D8,309A,30CB,30D2 3339=30D8,30EB,30C4 " ++
  "333A=30D8,309A,30F3,30B9 333B=30D8,309A,30FC,30B7,3099 333C=30D8,3099,30FC,30BF " ++
  "333D=30DB,309A,30A4,30F3,30C8 333E=30DB,3099,30EB,30C8 333F=30DB,30F3 " ++
  "3340=30DB,309A,30F3,30C8,3099 3341=30DB,30FC,30EB 3342=30DB,30FC,30F3 " ++
  "3343=30DE,30A4,30AF,30ED 3344=30DE,30A4,30EB 3345=30DE,30C3,30CF 3346=30DE,30EB,30AF " ++
  "3347=30DE,30F3,30B7,30E7,30F3 3348=30DF,30AF,30ED,30F3 3349=30DF,30EA " ++
  "334A=30DF,30EA,30CF,3099,30FC,30EB 334B=30E1,30AB,3099 334C=30E1,30AB,3099,30C8,30F3 " ++
  "334D=30E1,30FC,30C8,30EB 334E=30E4,30FC,30C8,3099 334F=30E4,30FC,30EB " ++
  "3350=30E6,30A2,30F3 3351=30EA,30C3,30C8,30EB 3352=30EA,30E9 3353=30EB,30D2,309A,30FC " ++
  "3354=30EB,30FC,30D5,3099,30EB 3355=30EC,30E0 3356=30EC,30F3,30C8,30B1,3099,30F3 " ++
  "3357=30EF,30C3,30C8 3358=30,70B9 3359=31,70B9 335A=32,70B9 335B=33,70B9 335C=34,70B9 " ++
  "335D=35,70B9 335E=36,70B9 335F=37,70B9 3360=38,70B9 3361=39,70B9 3362=31,30,70B9 " ++
  "3363=31,31,70B9 3364=31,32,70B9 3365=31,33,70B9 3366=31,34,70B9 3367=31,35,70B9 " ++
  "3368=31,36,70B9 3369=31,37,70B9 336A=31,38,70B9 336B=31,39,70B9 336C=32,30,70B9 " ++
  "336D=32,31,70B9 336E=32,32,70B9 336F=32,33,70B9 3370=32,34,70B9 3371=68,50,61 3372=64,61 " ++
  "3373=41,55 3374=62,61,72 3375=6F,56 3376=70,63 3377=64,6D 3378=64,6D,32 3379=64,6D,33 " ++
  "337A=49,55 337B=5E73,6210 337C=662D,548C 337D=5927,6B63 337E=660E,6CBB " ++
  "337F=682A,5F0F,4F1A,793E 3380=70,41 3381=6E,41 3382=3BC,41 3383=6D,41 3384=6B,41 " ++
  "3385=4B,42 3386=4D,42 3387=47,42 3388=63,61,6C 3389=6B,63,61,6C 338A=70,46 338B=6E,46 " ++
  "338C=3BC,46 338D=3BC,67 338E=6D,67 338F=6B,67 3390=48,7A 3391=6B,48,7A 3392=4D,48,7A " ++
  "3393=47,48,7A 3394=54,48,7A 3395=3BC,6C 3396=6D,6C 3397=64,6C 3398=6B,6C 3399=66,6D " ++
  "339A=6E,6D 339B=3BC,6D 339C=6D,6D 339D=63,6D 339E=6B,6D 339F=6D,6D,32 33A0=63,6D,32 " ++
  "33A1=6D,32 33A2=6B,6D,32 33A3=6D,6D,33 33A4=63,6D,33 33A5=6D,33 33A6=6B,6D,33 " ++
  "33A7=6D,2215,73 33A8=6D,2215,73,32 33A9=50,61 33AA=6B,50,61 33AB=4D,50,61 33AC=47,50,61 " ++
  "33AD=72,61,64 33AE=72,61,64,2215,73 33AF=72,61,64,2215,73,32 33B0=70,73 33B1=6E,73 " ++
  "33B2=3BC,73 33B3=6D,73 33B4=70,56 33B5=6E,56 33B6=3BC,56 33B7=6D,56 33B8=6B,56 " ++
  "33B9=4D,56 33BA=70,57 33BB=6E,57 33BC=3BC,57 33BD=6D,57 33BE=6B,57 33BF=4D,57 " ++
  "33C0=6B,3A9 33C1=4D,3A9 33C2=61,2E,6D,2E 33C3=42,71 33C4=63,63 33C5=63,64 " ++
  "33C6=43,2215,6B,67 33C7=43,6F,2E 33C8=64,42 33C9=47,79 33CA=68,61 33CB=48,50 33CC=69,6E " ++
  "33CD=4B,4B 33CE=4B,4D 33CF=6B,74 33D0=6C,6D 33D1=6C,6E 33D2=6C,6F,67 33D3=6C,78 " ++
  "33D4=6D,62 33D5=6D,69,6C 33D6=6D,6F,6C 33D7=50,48 33D8=70,2E,6D,2E 33D9=50,50,4D " ++
  "33DA=50,52 33DB=73,72 33DC=53,76 33DD=57,62 33DE=56,2215,6D 33DF=41,2215,6D 33E0=31,65E5 " ++
  "33E1=32,65E5 33E2=33,65E5 33E3=34,65E5 33E4=35,65E5 33E5=36,65E5 33E6=37,65E5 " ++
  "33E7=38,65E5 33E8=39,65E5 33E9=31,30,65E5 33EA=31,31,65E5 33EB=31,32,65E5 " ++
  "33EC=31,33,65E5 33ED=31,34,65E5 33EE=31,35,65E5 33EF=31,36,65E5 33F0=31,37,65E5 " ++
  "33F1=31,38,65E5 33F2=31,39,65E5 33F3=32,30,65E5 33F4=32,31,65E5 33F5=32,32,65E5 " ++
  "33F6=32,33,65E5 33F7=32,34,65E5 33F8=32,35,65E5 33F9=32,36,65E5 33FA=32,37,65E5 " ++
  "33FB=32,38,65E5 33FC=32,39,65E5 33FD=33,30,65E5 33FE=33,31,65E5 33FF=67,61,6C FB00=66,66 " ++
  "FB01=66,69 FB02=66,6C FB03=66,66,69 FB04=66,66,6C FB05=73,74 FB06=73,74 FB13=574,576 " ++
  "FB14=574,565 FB15=574,56B FB16=57E,576 FB17=574,56D FB1D=5D9,5B4 FB1F=5F2,5B7 " ++
  "FB2A=5E9,5C1 FB2B=5E9,5C2 FB2C=5E9,5BC,5C1 FB2D=5E9,5BC,5C2 FB2E=5D0,5B7 FB2F=5D0,5B8 " ++
  "FB30=5D0,5BC FB31=5D1,5BC FB32=5D2,5BC FB33=5D3,5BC FB34=5D4,5BC FB35=5D5,5BC " ++
  "FB36=5D6,5BC FB38=5D8,5BC FB39=5D9,5BC FB3A=5DA,5BC FB3B=5DB,5BC FB3C=5DC,5BC " ++
  "FB3E=5DE,5BC FB40=5E0,5BC FB41=5E1,5BC FB43=5E3,5BC FB44=5E4,5BC FB46=5E6,5BC " ++
  "FB47=5E7,5BC FB48=5E8,5BC FB49=5E9,5BC FB4A=5EA,5BC FB4B=5D5,5B9 FB4C=5D1,5BF " ++
  "FB4D=5DB,5BF FB4E=5E4,5BF FB4F=5D0,5DC FBA4=6D5,654 FBA5=6D5,654 FBB0=6D2,654 " ++
  "FBB1=6D2,654 FBDD=6C7,674 FBEA=64A,654,627 FBEB=64A,654,627 FBEC=64A,654,6D5 " ++
  "FBED=64A,654,6D5 FBEE=64A,654,648 FBEF=64A,654,648 FBF0=64A,654,6C7 FBF1=64A,654,6C7 " ++
  "FBF2=64A,654,6C6 FBF3=64A,654,6C6 FBF4=64A,654,6C8 FBF5=64A,654,6C8 FBF6=64A,654,6D0 " ++
  "FBF7=64A,654,6D0 FBF8=64A,654,6D0 FBF9=64A,654,649 FBFA=64A,654,649 FBFB=64A,654,649 " ++
  "FC00=64A,654,62C FC01=64A,654,62D FC02=64A,654,645 FC03=64A,654,649 FC04=64A,654,64A " ++
  "FC05=628,62C FC06=628,62D FC07=628,62E FC08=628,645 FC09=628,649 FC0A=628,64A " ++
  "FC0B=62A,62C FC0C=62A,62D FC0D=62A,62E FC0E=62A,645 FC0F=62A,649 FC10=62A,64A " ++
  "FC11=62B,62C FC12=62B,645 FC13=62B,649 FC14=62B,64A FC15=62C,62D FC16=62C,645 " ++
  "FC17=62D,62C FC18=62D,645 FC19=62E,62C FC1A=62E,62D FC1B=62E,645 FC1C=633,62C " ++
  "FC1D=633,62D FC1E=633,62E FC1F=633,645 FC20=635,62D FC21=635,645 FC22=636,62C " ++
  "FC23=636,62D FC24=636,62E FC25=636,645 FC26=637,62D FC27=637,645 FC28=638,645 " ++
  "FC29=639,62C FC2A=639,645 FC2B=63A,62C FC2C=63A,645 FC2D=641,62C FC2E=641,62D " ++
  "FC2F=641,62E FC30=641,645 FC31=641,649 FC32=641,64A FC33=642,62D FC34=642,645 " ++
  "FC35=642,649 FC36=642,64A FC37=643,627 FC38=643,62C FC39=643,62D FC3A=643,62E " ++
  "FC3B=643,644 FC3C=643,645 FC3D=643,649 FC3E=643,64A FC3F=644,62C FC40=644,62D " ++
  "FC41=644,62E FC42=644,645 FC43=644,649 FC44=644,64A FC45=645,62C FC46=645,62D " ++
  "FC47=645,62E FC48=645,645 FC49=645,649 FC4A=645,64A FC4B=646,62C FC4C=646,62D " ++
  "FC4D=646,62E FC4E=646,645 FC4F=646,649 FC50=646,64A FC51=647,62C FC52=647,645 " ++
  "FC53=647,649 FC54=647,64A FC55=64A,62C FC56=64A,62D FC57=64A,62E FC58=64A,645 " ++
  "FC59=64A,649 FC5A=64A,64A FC5B=630,670 FC5C=631,670 FC5D=649,670 FC5E=20,64C,651 " ++
  "FC5F=20,64D,651 FC60=20,64E,651 FC61=20,64F,651 FC62=20,650,651 FC63=20,651,670 " ++
  "FC64=64A,654,631 FC65=64A,654,632 FC66=64A,654,645 FC67=64A,654,646 FC68=64A,654,649 " ++
  "FC69=64A,654,64A FC6A=628,631 FC6B=628,632 FC6C=628,645 FC6D=628,646 FC6E=628,649 " ++
  "FC6F=628,64A FC70=62A,631 FC71=62A,632 FC72=62A,645 FC73=62A,646 FC74=62A,649 " ++
  "FC75=62A,64A FC76=62B,631 FC77=62B,632 FC78=62B,645 FC79=62B,646 FC7A=62B,649 " ++
  "FC7B=62B,64A FC7C=641,649 FC7D=641,64A FC7E=642,649 FC7F=642,64A FC80=643,627 " ++
  "FC81=643,644 FC82=643,645 FC83=643,649 FC84=643,64A FC85=644,645 FC86=644,649 " ++
  "FC87=644,64A FC88=645,627 FC89=645,645 FC8A=646,631 FC8B=646,632 FC8C=646,645 " ++
  "FC8D=646,646 FC8E=646,649 FC8F=646,64A FC90=649,670 FC91=64A,631 FC92=64A,632 " ++
  "FC93=64A,645 FC94=64A,646 FC95=64A,649 FC96=64A,64A FC97=64A,654,62C FC98=64A,654,62D " ++
  "FC99=64A,654,62E FC9A=64A,654,645 FC9B=64A,654,647 FC9C=628,62C FC9D=628,62D " ++
  "FC9E=628,62E FC9F=628,645 FCA0=628,647 FCA1=62A,62C FCA2=62A,62D FCA3=62A,62E " ++
  "FCA4=62A,645 FCA5=62A,647 FCA6=62B,645 FCA7=62C,62D FCA8=62C,645 FCA9=62D,62C " ++
  "FCAA=62D,645 FCAB=62E,62C FCAC=62E,645 FCAD=633,62C FCAE=633,62D FCAF=633,62E " ++
  "FCB0=633,645 FCB1=635,62D FCB2=635,62E FCB3=635,645 FCB4=636,62C FCB5=636,62D " ++
  "FCB6=636,62E FCB7=636,645 FCB8=637,62D FCB9=638,645 FCBA=639,62C FCBB=639,645 " ++
  "FCBC=63A,62C FCBD=63A,645 FCBE=641,62C FCBF=641,62D FCC0=641,62E FCC1=641,645 " ++
  "FCC2=642,62D FCC3=642,645 FCC4=643,62C FCC5=643,62D FCC6=643,62E FCC7=643,644 " ++
  "FCC8=643,645 FCC9=644,62C FCCA=644,62D FCCB=644,62E FCCC=644,645 FCCD=644,647 " ++
  "FCCE=645,62C FCCF=645,62D FCD0=645,62E FCD1=645,645 FCD2=646,62C FCD3=646,62D " ++
  "FCD4=646,62E FCD5=646,645 FCD6=646,647 FCD7=647,62C FCD8=647,645 FCD9=647,670 " ++
  "FCDA=64A,62C FCDB=64A,62D FCDC=64A,62E FCDD=64A,645 FCDE=64A,647 FCDF=64A,654,645 " ++
  "FCE0=64A,654,647 FCE1=628,645 FCE2=628,647 FCE3=62A,645 FCE4=62A,647 FCE5=62B,645 " ++
  "FCE6=62B,647 FCE7=633,645 FCE8=633,647 FCE9=634,645 FCEA=634,647 FCEB=643,644 " ++
  "FCEC=643,645 FCED=644,645 FCEE=646,645 FCEF=646,647 FCF0=64A,645 FCF1=64A,647 " ++
  "FCF2=640,64E,651 FCF3=640,64F,651 FCF4=640,650,651 FCF5=637,649 FCF6=637,64A " ++
  "FCF7=639,649 FCF8=639,64A FCF9=63A,649 FCFA=63A,64A FCFB=633,649 FCFC=633,64A " ++
  "FCFD=634,649 FCFE=634,64A FCFF=62D,649 FD00=62D,64A FD01=62C,649 FD02=62C,64A " ++
  "FD03=62E,649 FD04=62E,64A FD05=635,649 FD06=635,64A FD07=636,649 FD08=636,64A " ++
  "FD09=634,62C FD0A=634,62D FD0B=634,62E FD0C=634,645 FD0D=634,631 FD0E=633,631 " ++
  "FD0F=635,631 FD10=636,631 FD11=637,649 FD12=637,64A FD13=639,649 FD14=639,64A " ++
  "FD15=63A,649 FD16=63A,64A FD17=633,649 FD18=633,64A FD19=634,649 FD1A=634,64A " ++
  "FD1B=62D,649 FD1C=62D,64A FD1D=62C,649 FD1E=62C,64A FD1F=62E,649 FD20=62E,64A " ++
  "FD21=635,649 FD22=635,64A FD23=636,649 FD24=636,64A FD25=634,62C FD26=634,62D " ++
  "FD27=634,62E FD28=634,645 FD29=634,631 FD2A=633,631 FD2B=635,631 FD2C=636,631 " ++
  "FD2D=634,62C FD2E=634,62D FD2F=634,62E FD30=634,645 FD31=633,647 FD32=634,647 " ++
  "FD33=637,645 FD34=633,62C FD35=633,62D FD36=633,62E FD37=634,62C FD38=634,62D " ++
  "FD39=634,62E FD3A=637,645 FD3B=638,645 FD3C=627,64B FD3D=627,64B FD50=62A,62C,645 " ++
  "FD51=62A,62D,62C FD52=62A,62D,62C FD53=62A,62D,645 FD54=62A,62E,645 FD55=62A,645,62C " ++
  "FD56=62A,645,62D FD57=62A,645,62E FD58=62C,645,62D FD59=62C,645,62D FD5A=62D,645,64A " ++
  "FD5B=62D,645,649 FD5C=633,62D,62C FD5D=633,62C,62D FD5E=633,62C,649 FD5F=633,645,62D " ++
  "FD60=633,645,62D FD61=633,645,62C FD62=633,645,645 FD63=633,645,645 FD64=635,62D,62D " ++
  "FD65=635,62D,62D FD66=635,645,645 FD67=634,62D,645 FD68=634,62D,645 FD69=634,62C,64A " ++
  "FD6A=634,645,62E FD6B=634,645,62E FD6C=634,645,645 FD6D=634,645,645 FD6E=636,62D,649 " ++
  "FD6F=636,62E,645 FD70=636,62E,645 FD71=637,645,62D FD72=637,645,62D FD73=637,645,645 " ++
  "FD74=637,645,64A FD75=639,62C,645 FD76=639,645,645 FD77=639,645,645 FD78=639,645,649 " ++
  "FD79=63A,645,645 FD7A=63A,645,64A FD7B=63A,645,649 FD7C=641,62E,645 FD7D=641,62E,645 " ++
  "FD7E=642,645,62D FD7F=642,645,645 FD80=644,62D,645 FD81=644,62D,64A FD82=644,62D,649 " ++
  "FD83=644,62C,62C FD84=644,62C,62C FD85=644,62E,645 FD86=644,62E,645 FD87=644,645,62D " ++
  "FD88=644,645,62D FD89=645,62D,62C FD8A=645,62D,645 FD8B=645,62D,64A FD8C=645,62C,62D " ++
  "FD8D=645,62C,645 FD8E=645,62E,62C FD8F=645,62E,645 FD92=645,62C,62E FD93=647,645,62C " ++
  "FD94=647,645,645 FD95=646,62D,645 FD96=646,62D,649 FD97=646,62C,645 FD98=646,62C,645 " ++
  "FD99=646,62C,649 FD9A=646,645,64A FD9B=646,645,649 FD9C=64A,645,645 FD9D=64A,645,645 " ++
  "FD9E=628,62E,64A FD9F=62A,62C,64A FDA0=62A,62C,649 FDA1=62A,62E,64A FDA2=62A,62E,649 " ++
  "FDA3=62A,645,64A FDA4=62A,645,649 FDA5=62C,645,64A FDA6=62C,62D,649 FDA7=62C,645,649 " ++
  "FDA8=633,62E,649 FDA9=635,62D,64A FDAA=634,62D,64A FDAB=636,62D,64A FDAC=644,62C,64A " ++
  "FDAD=644,645,64A FDAE=64A,62D,64A FDAF=64A,62C,64A FDB0=64A,645,64A FDB1=645,645,64A " ++
  "FDB2=642,645,64A FDB3=646,62D,64A FDB4=642,645,62D FDB5=644,62D,645 FDB6=639,645,64A " ++
  "FDB7=643,645,64A FDB8=646,62C,62D FDB9=645,62E,64A FDBA=644,62C,645 FDBB=643,645,645 " ++
  "FDBC=644,62C,645 FDBD=646,62C,62D FDBE=62C,62D,64A FDBF=62D,62C,64A FDC0=645,62C,64A " ++
  "FDC1=641,645,64A FDC2=628,62D,64A FDC3=643,645,645 FDC4=639,62C,645 FDC5=635,645,645 " ++
  "FDC6=633,62E,64A FDC7=646,62C,64A FDF0=635,644,6D2 FDF1=642,644,6D2 FDF2=627,644,644,647 " ++
  "FDF3=627,643,628,631 FDF4=645,62D,645,62F FDF5=635,644,639,645 FDF6=631,633,648,644 " ++
  "FDF7=639,644,64A,647 FDF8=648,633,644,645 FDF9=635,644,649 " ++
  "FDFA=635,644,649,20,627,644,644,647,20,639,644,64A,647,20,648,633,644,645 " ++
  "FDFB=62C,644,20,62C,644,627,644,647 FDFC=631,6CC,627,644 FE19=2E,2E,2E FE30=2E,2E " ++
  "FE49=20,305 FE4A=20,305 FE4B=20,305 FE4C=20,305 FE70=20,64B FE71=640,64B FE72=20,64C " ++
  "FE74=20,64D FE76=20,64E FE77=640,64E FE78=20,64F FE79=640,64F FE7A=20,650 FE7B=640,650 " ++
  "FE7C=20,651 FE7D=640,651 FE7E=20,652 FE7F=640,652 FE81=627,653 FE82=627,653 FE83=627,654 " ++
  "FE84=627,654 FE85=648,654 FE86=648,654 FE87=627,655 FE88=627,655 FE89=64A,654 " ++
  "FE8A=64A,654 FE8B=64A,654 FE8C=64A,654 FEF5=644,627,653 FEF6=644,627,653 " ++
  "FEF7=644,627,654 FEF8=644,627,654 FEF9=644,627,655 FEFA=644,627,655 FEFB=644,627 " ++
  "FEFC=644,627 FFE3=20,304 1D15E=1D157,1D165 1D15F=1D158,1D165 1D160=1D158,1D165,1D16E " ++
  "1D161=1D158,1D165,1D16F 1D162=1D158,1D165,1D170 1D163=1D158,1D165,1D171 " ++
  "1D164=1D158,1D165,1D172 1D1BB=1D1B9,1D165 1D1BC=1D1BA,1D165 1D1BD=1D1B9,1D165,1D16E " ++
  "1D1BE=1D1BA,1D165,1D16E 1D1BF=1D1B9,1D165,1D16F 1D1C0=1D1BA,1D165,1D16F 1F100=30,2E " ++
  "1F101=30,2C 1F102=31,2C 1F103=32,2C 1F104=33,2C 1F105=34,2C 1F106=35,2C 1F107=36,2C " ++
  "1F108=37,2C 1F109=38,2C 1F10A=39,2C 1F110=28,41,29 1F111=28,42,29 1F112=28,43,29 " ++
  "1F113=28,44,29 1F114=28,45,29 1F115=28,46,29 1F116=28,47,29 1F117=28,48,29 " ++
  "1F118=28,49,29 1F119=28,4A,29 1F11A=28,4B,29 1F11B=28,4C,29 1F11C=28,4D,29 " ++
  "1F11D=28,4E,29 1F11E=28,4F,29 1F11F=28,50,29 1F120=28,51,29 1F121=28,52,29 " ++
  "1F122=28,53,29 1F123=28,54,29 1F124=28,55,29 1F125=28,56,29 1F126=28,57,29 " ++
  "1F127=28,58,29 1F128=28,59,29 1F129=28,5A,29 1F12A=3014,53,3015 1F12D=43,44 1F12E=57,5A " ++
  "1F14A=48,56 1F14B=4D,56 1F14C=53,44 1F14D=53,53 1F14E=50,50,56 1F14F=57,43 1F16A=4D,43 " ++
  "1F16B=4D,44 1F16C=4D,52 1F190=44,4A 1F200=307B,304B 1F201=30B3,30B3 1F213=30C6,3099 " ++
  "1F240=3014,672C,3015 1F241=3014,4E09,3015 1F242=3014,4E8C,3015 1F243=3014,5B89,3015 " ++
  "1F244=3014,70B9,3015 1F245=3014,6253,3015 1F246=3014,76D7,3015 1F247=3014,52DD,3015 " ++
  "1F248=3014,6557,3015")

/-- Characters that are made from two. -/
def pairs : String :=
  ("3C:338=226E 3D:338=2260 3E:338=226F " ++
  "41:300=C0,301=C1,302=C2,303=C3,304=100,306=102,307=226,308=C4 " ++
  "41:309=1EA2,30A=C5,30C=1CD,30F=200,311=202,323=1EA0,325=1E00,328=104 " ++
  "42:307=1E02,323=1E04,331=1E06 43:301=106,302=108,307=10A,30C=10C,327=C7 " ++
  "44:307=1E0A,30C=10E,323=1E0C,327=1E10,32D=1E12,331=1E0E " ++
  "45:300=C8,301=C9,302=CA,303=1EBC,304=112,306=114,307=116,308=CB " ++
  "45:309=1EBA,30C=11A,30F=204,311=206,323=1EB8,327=228,328=118,32D=1E18 45:330=1E1A " ++
  "46:307=1E1E 47:301=1F4,302=11C,304=1E20,306=11E,307=120,30C=1E6,327=122 " ++
  "48:302=124,307=1E22,308=1E26,30C=21E,323=1E24,327=1E28,32E=1E2A " ++
  "49:300=CC,301=CD,302=CE,303=128,304=12A,306=12C,307=130,308=CF " ++
  "49:309=1EC8,30C=1CF,30F=208,311=20A,323=1ECA,328=12E,330=1E2C 4A:302=134 " ++
  "4B:301=1E30,30C=1E8,323=1E32,327=136,331=1E34 " ++
  "4C:301=139,30C=13D,323=1E36,327=13B,32D=1E3C,331=1E3A 4D:301=1E3E,307=1E40,323=1E42 " ++
  "4E:300=1F8,301=143,303=D1,307=1E44,30C=147,323=1E46,327=145,32D=1E4A 4E:331=1E48 " ++
  "4F:300=D2,301=D3,302=D4,303=D5,304=14C,306=14E,307=22E,308=D6 " ++
  "4F:309=1ECE,30B=150,30C=1D1,30F=20C,311=20E,31B=1A0,323=1ECC,328=1EA " ++
  "50:301=1E54,307=1E56 " ++
  "52:301=154,307=1E58,30C=158,30F=210,311=212,323=1E5A,327=156,331=1E5E " ++
  "53:301=15A,302=15C,307=1E60,30C=160,323=1E62,326=218,327=15E " ++
  "54:307=1E6A,30C=164,323=1E6C,326=21A,327=162,32D=1E70,331=1E6E " ++
  "55:300=D9,301=DA,302=DB,303=168,304=16A,306=16C,308=DC,309=1EE6 " ++
  "55:30A=16E,30B=170,30C=1D3,30F=214,311=216,31B=1AF,323=1EE4,324=1E72 " ++
  "55:328=172,32D=1E76,330=1E74 56:303=1E7C,323=1E7E " ++
  "57:300=1E80,301=1E82,302=174,307=1E86,308=1E84,323=1E88 58:307=1E8A,308=1E8C " ++
  "59:300=1EF2,301=DD,302=176,303=1EF8,304=232,307=1E8E,308=178,309=1EF6 59:323=1EF4 " ++
  "5A:301=179,302=1E90,307=17B,30C=17D,323=1E92,331=1E94 " ++
  "61:300=E0,301=E1,302=E2,303=E3,304=101,306=103,307=227,308=E4 " ++
  "61:309=1EA3,30A=E5,30C=1CE,30F=201,311=203,323=1EA1,325=1E01,328=105 " ++
  "62:307=1E03,323=1E05,331=1E07 63:301=107,302=109,307=10B,30C=10D,327=E7 " ++
  "64:307=1E0B,30C=10F,323=1E0D,327=1E11,32D=1E13,331=1E0F " ++
  "65:300=E8,301=E9,302=EA,303=1EBD,304=113,306=115,307=117,308=EB " ++
  "65:309=1EBB,30C=11B,30F=205,311=207,323=1EB9,327=229,328=119,32D=1E19 65:330=1E1B " ++
  "66:307=1E1F 67:301=1F5,302=11D,304=1E21,306=11F,307=121,30C=1E7,327=123 " ++
  "68:302=125,307=1E23,308=1E27,30C=21F,323=1E25,327=1E29,32E=1E2B,331=1E96 " ++
  "69:300=EC,301=ED,302=EE,303=129,304=12B,306=12D,308=EF,309=1EC9 " ++
  "69:30C=1D0,30F=209,311=20B,323=1ECB,328=12F,330=1E2D 6A:302=135,30C=1F0 " ++
  "6B:301=1E31,30C=1E9,323=1E33,327=137,331=1E35 " ++
  "6C:301=13A,30C=13E,323=1E37,327=13C,32D=1E3D,331=1E3B 6D:301=1E3F,307=1E41,323=1E43 " ++
  "6E:300=1F9,301=144,303=F1,307=1E45,30C=148,323=1E47,327=146,32D=1E4B 6E:331=1E49 " ++
  "6F:300=F2,301=F3,302=F4,303=F5,304=14D,306=14F,307=22F,308=F6 " ++
  "6F:309=1ECF,30B=151,30C=1D2,30F=20D,311=20F,31B=1A1,323=1ECD,328=1EB " ++
  "70:301=1E55,307=1E57 " ++
  "72:301=155,307=1E59,30C=159,30F=211,311=213,323=1E5B,327=157,331=1E5F " ++
  "73:301=15B,302=15D,307=1E61,30C=161,323=1E63,326=219,327=15F " ++
  "74:307=1E6B,308=1E97,30C=165,323=1E6D,326=21B,327=163,32D=1E71,331=1E6F " ++
  "75:300=F9,301=FA,302=FB,303=169,304=16B,306=16D,308=FC,309=1EE7 " ++
  "75:30A=16F,30B=171,30C=1D4,30F=215,311=217,31B=1B0,323=1EE5,324=1E73 " ++
  "75:328=173,32D=1E77,330=1E75 76:303=1E7D,323=1E7F " ++
  "77:300=1E81,301=1E83,302=175,307=1E87,308=1E85,30A=1E98,323=1E89 78:307=1E8B,308=1E8D " ++
  "79:300=1EF3,301=FD,302=177,303=1EF9,304=233,307=1E8F,308=FF,309=1EF7 " ++
  "79:30A=1E99,323=1EF5 7A:301=17A,302=1E91,307=17C,30C=17E,323=1E93,331=1E95 " ++
  "A8:300=1FED,301=385,342=1FC1 C2:300=1EA6,301=1EA4,303=1EAA,309=1EA8 C4:304=1DE " ++
  "C5:301=1FA C6:301=1FC,304=1E2 C7:301=1E08 CA:300=1EC0,301=1EBE,303=1EC4,309=1EC2 " ++
  "CF:301=1E2E D4:300=1ED2,301=1ED0,303=1ED6,309=1ED4 D5:301=1E4C,304=22C,308=1E4E " ++
  "D6:304=22A D8:301=1FE DC:300=1DB,301=1D7,304=1D5,30C=1D9 " ++
  "E2:300=1EA7,301=1EA5,303=1EAB,309=1EA9 E4:304=1DF E5:301=1FB E6:301=1FD,304=1E3 " ++
  "E7:301=1E09 EA:300=1EC1,301=1EBF,303=1EC5,309=1EC3 EF:301=1E2F " ++
  "F4:300=1ED3,301=1ED1,303=1ED7,309=1ED5 F5:301=1E4D,304=22D,308=1E4F F6:304=22B " ++
  "F8:301=1FF FC:300=1DC,301=1D8,304=1D6,30C=1DA 102:300=1EB0,301=1EAE,303=1EB4,309=1EB2 " ++
  "103:300=1EB1,301=1EAF,303=1EB5,309=1EB3 112:300=1E14,301=1E16 113:300=1E15,301=1E17 " ++
  "14C:300=1E50,301=1E52 14D:300=1E51,301=1E53 15A:307=1E64 15B:307=1E65 160:307=1E66 " ++
  "161:307=1E67 168:301=1E78 169:301=1E79 16A:308=1E7A 16B:308=1E7B 17F:307=1E9B " ++
  "1A0:300=1EDC,301=1EDA,303=1EE0,309=1EDE,323=1EE2 " ++
  "1A1:300=1EDD,301=1EDB,303=1EE1,309=1EDF,323=1EE3 " ++
  "1AF:300=1EEA,301=1EE8,303=1EEE,309=1EEC,323=1EF0 " ++
  "1B0:300=1EEB,301=1EE9,303=1EEF,309=1EED,323=1EF1 1B7:30C=1EE 1EA:304=1EC 1EB:304=1ED " ++
  "226:304=1E0 227:304=1E1 228:306=1E1C 229:306=1E1D 22E:304=230 22F:304=231 292:30C=1EF " ++
  "391:300=1FBA,301=386,304=1FB9,306=1FB8,313=1F08,314=1F09,345=1FBC " ++
  "395:300=1FC8,301=388,313=1F18,314=1F19 397:300=1FCA,301=389,313=1F28,314=1F29,345=1FCC " ++
  "399:300=1FDA,301=38A,304=1FD9,306=1FD8,308=3AA,313=1F38,314=1F39 " ++
  "39F:300=1FF8,301=38C,313=1F48,314=1F49 3A1:314=1FEC " ++
  "3A5:300=1FEA,301=38E,304=1FE9,306=1FE8,308=3AB,314=1F59 " ++
  "3A9:300=1FFA,301=38F,313=1F68,314=1F69,345=1FFC 3AC:345=1FB4 3AE:345=1FC4 " ++
  "3B1:300=1F70,301=3AC,304=1FB1,306=1FB0,313=1F00,314=1F01,342=1FB6,345=1FB3 " ++
  "3B5:300=1F72,301=3AD,313=1F10,314=1F11 " ++
  "3B7:300=1F74,301=3AE,313=1F20,314=1F21,342=1FC6,345=1FC3 " ++
  "3B9:300=1F76,301=3AF,304=1FD1,306=1FD0,308=3CA,313=1F30,314=1F31,342=1FD6 " ++
  "3BF:300=1F78,301=3CC,313=1F40,314=1F41 3C1:313=1FE4,314=1FE5 " ++
  "3C5:300=1F7A,301=3CD,304=1FE1,306=1FE0,308=3CB,313=1F50,314=1F51,342=1FE6 " ++
  "3C9:300=1F7C,301=3CE,313=1F60,314=1F61,342=1FF6,345=1FF3 3CA:300=1FD2,301=390,342=1FD7 " ++
  "3CB:300=1FE2,301=3B0,342=1FE7 3CE:345=1FF4 3D2:301=3D3,308=3D4 406:308=407 " ++
  "410:306=4D0,308=4D2 413:301=403 415:300=400,306=4D6,308=401 416:306=4C1,308=4DC " ++
  "417:308=4DE 418:300=40D,304=4E2,306=419,308=4E4 41A:301=40C 41E:308=4E6 " ++
  "423:304=4EE,306=40E,308=4F0,30B=4F2 427:308=4F4 42B:308=4F8 42D:308=4EC " ++
  "430:306=4D1,308=4D3 433:301=453 435:300=450,306=4D7,308=451 436:306=4C2,308=4DD " ++
  "437:308=4DF 438:300=45D,304=4E3,306=439,308=4E5 43A:301=45C 43E:308=4E7 " ++
  "443:304=4EF,306=45E,308=4F1,30B=4F3 447:308=4F5 44B:308=4F9 44D:308=4ED 456:308=457 " ++
  "474:30F=476 475:30F=477 4D8:308=4DA 4D9:308=4DB 4E8:308=4EA 4E9:308=4EB " ++
  "627:653=622,654=623,655=625 648:654=624 64A:654=626 6C1:654=6C2 6D2:654=6D3 6D5:654=6C0 " ++
  "928:93C=929 930:93C=931 933:93C=934 9C7:9BE=9CB,9D7=9CC B47:B3E=B4B,B56=B48,B57=B4C " ++
  "B92:BD7=B94 BC6:BBE=BCA,BD7=BCC BC7:BBE=BCB C46:C56=C48 CBF:CD5=CC0 " ++
  "CC6:CC2=CCA,CD5=CC7,CD6=CC8 CCA:CD5=CCB D46:D3E=D4A,D57=D4C D47:D3E=D4B " ++
  "DD9:DCA=DDA,DCF=DDC,DDF=DDE DDC:DCA=DDD 1025:102E=1026 1B05:1B35=1B06 1B07:1B35=1B08 " ++
  "1B09:1B35=1B0A 1B0B:1B35=1B0C 1B0D:1B35=1B0E 1B11:1B35=1B12 1B3A:1B35=1B3B " ++
  "1B3C:1B35=1B3D 1B3E:1B35=1B40 1B3F:1B35=1B41 1B42:1B35=1B43 1E36:304=1E38 1E37:304=1E39 " ++
  "1E5A:304=1E5C 1E5B:304=1E5D 1E62:307=1E68 1E63:307=1E69 1EA0:302=1EAC,306=1EB6 " ++
  "1EA1:302=1EAD,306=1EB7 1EB8:302=1EC6 1EB9:302=1EC7 1ECC:302=1ED8 1ECD:302=1ED9 " ++
  "1F00:300=1F02,301=1F04,342=1F06,345=1F80 1F01:300=1F03,301=1F05,342=1F07,345=1F81 " ++
  "1F02:345=1F82 1F03:345=1F83 1F04:345=1F84 1F05:345=1F85 1F06:345=1F86 1F07:345=1F87 " ++
  "1F08:300=1F0A,301=1F0C,342=1F0E,345=1F88 1F09:300=1F0B,301=1F0D,342=1F0F,345=1F89 " ++
  "1F0A:345=1F8A 1F0B:345=1F8B 1F0C:345=1F8C 1F0D:345=1F8D 1F0E:345=1F8E 1F0F:345=1F8F " ++
  "1F10:300=1F12,301=1F14 1F11:300=1F13,301=1F15 1F18:300=1F1A,301=1F1C " ++
  "1F19:300=1F1B,301=1F1D 1F20:300=1F22,301=1F24,342=1F26,345=1F90 " ++
  "1F21:300=1F23,301=1F25,342=1F27,345=1F91 1F22:345=1F92 1F23:345=1F93 1F24:345=1F94 " ++
  "1F25:345=1F95 1F26:345=1F96 1F27:345=1F97 1F28:300=1F2A,301=1F2C,342=1F2E,345=1F98 " ++
  "1F29:300=1F2B,301=1F2D,342=1F2F,345=1F99 1F2A:345=1F9A 1F2B:345=1F9B 1F2C:345=1F9C " ++
  "1F2D:345=1F9D 1F2E:345=1F9E 1F2F:345=1F9F 1F30:300=1F32,301=1F34,342=1F36 " ++
  "1F31:300=1F33,301=1F35,342=1F37 1F38:300=1F3A,301=1F3C,342=1F3E " ++
  "1F39:300=1F3B,301=1F3D,342=1F3F 1F40:300=1F42,301=1F44 1F41:300=1F43,301=1F45 " ++
  "1F48:300=1F4A,301=1F4C 1F49:300=1F4B,301=1F4D 1F50:300=1F52,301=1F54,342=1F56 " ++
  "1F51:300=1F53,301=1F55,342=1F57 1F59:300=1F5B,301=1F5D,342=1F5F " ++
  "1F60:300=1F62,301=1F64,342=1F66,345=1FA0 1F61:300=1F63,301=1F65,342=1F67,345=1FA1 " ++
  "1F62:345=1FA2 1F63:345=1FA3 1F64:345=1FA4 1F65:345=1FA5 1F66:345=1FA6 1F67:345=1FA7 " ++
  "1F68:300=1F6A,301=1F6C,342=1F6E,345=1FA8 1F69:300=1F6B,301=1F6D,342=1F6F,345=1FA9 " ++
  "1F6A:345=1FAA 1F6B:345=1FAB 1F6C:345=1FAC 1F6D:345=1FAD 1F6E:345=1FAE 1F6F:345=1FAF " ++
  "1F70:345=1FB2 1F74:345=1FC2 1F7C:345=1FF2 1FB6:345=1FB7 1FBF:300=1FCD,301=1FCE,342=1FCF " ++
  "1FC6:345=1FC7 1FF6:345=1FF7 1FFE:300=1FDD,301=1FDE,342=1FDF 2190:338=219A 2192:338=219B " ++
  "2194:338=21AE 21D0:338=21CD 21D2:338=21CF 21D4:338=21CE 2203:338=2204 2208:338=2209 " ++
  "220B:338=220C 2223:338=2224 2225:338=2226 223C:338=2241 2243:338=2244 2245:338=2247 " ++
  "2248:338=2249 224D:338=226D 2261:338=2262 2264:338=2270 2265:338=2271 2272:338=2274 " ++
  "2273:338=2275 2276:338=2278 2277:338=2279 227A:338=2280 227B:338=2281 227C:338=22E0 " ++
  "227D:338=22E1 2282:338=2284 2283:338=2285 2286:338=2288 2287:338=2289 2291:338=22E2 " ++
  "2292:338=22E3 22A2:338=22AC 22A8:338=22AD 22A9:338=22AE 22AB:338=22AF 22B2:338=22EA " ++
  "22B3:338=22EB 22B4:338=22EC 22B5:338=22ED 3046:3099=3094 304B:3099=304C 304D:3099=304E " ++
  "304F:3099=3050 3051:3099=3052 3053:3099=3054 3055:3099=3056 3057:3099=3058 " ++
  "3059:3099=305A 305B:3099=305C 305D:3099=305E 305F:3099=3060 3061:3099=3062 " ++
  "3064:3099=3065 3066:3099=3067 3068:3099=3069 306F:3099=3070,309A=3071 " ++
  "3072:3099=3073,309A=3074 3075:3099=3076,309A=3077 3078:3099=3079,309A=307A " ++
  "307B:3099=307C,309A=307D 309D:3099=309E 30A6:3099=30F4 30AB:3099=30AC 30AD:3099=30AE " ++
  "30AF:3099=30B0 30B1:3099=30B2 30B3:3099=30B4 30B5:3099=30B6 30B7:3099=30B8 " ++
  "30B9:3099=30BA 30BB:3099=30BC 30BD:3099=30BE 30BF:3099=30C0 30C1:3099=30C2 " ++
  "30C4:3099=30C5 30C6:3099=30C7 30C8:3099=30C9 30CF:3099=30D0,309A=30D1 " ++
  "30D2:3099=30D3,309A=30D4 30D5:3099=30D6,309A=30D7 30D8:3099=30D9,309A=30DA " ++
  "30DB:3099=30DC,309A=30DD 30EF:3099=30F7 30F0:3099=30F8 30F1:3099=30F9 30F2:3099=30FA " ++
  "30FD:3099=30FE 11099:110BA=1109A 1109B:110BA=1109C 110A5:110BA=110AB 11131:11127=1112E " ++
  "11132:11127=1112F 11347:1133E=1134B,11357=1134C " ++
  "114B9:114B0=114BC,114BA=114BB,114BD=114BE 115B8:115AF=115BA 115B9:115AF=115BB " ++
  "11935:11930=11938")

/-- The ranks of marks; what has none starts a character. -/
def ranks : String :=
  ("300-314=E6 315=E8 316-319=DC 31A=E8 31B=D8 31C-320=DC 321-322=CA 323-326=DC 327-328=CA " ++
  "329-333=DC 334-338=1 339-33C=DC 33D-344=E6 345=F0 346=E6 347-349=DC 34A-34C=E6 " ++
  "34D-34E=DC 350-352=E6 353-356=DC 357=E6 358=E8 359-35A=DC 35B=E6 35C=E9 35D-35E=EA " ++
  "35F=E9 360-361=EA 362=E9 363-36F=E6 483-487=E6 591=DC 592-595=E6 596=DC 597-599=E6 " ++
  "59A=DE 59B=DC 59C-5A1=E6 5A2-5A7=DC 5A8-5A9=E6 5AA=DC 5AB-5AC=E6 5AD=DE 5AE=E4 5AF=E6 " ++
  "5B0=A 5B1=B 5B2=C 5B3=D 5B4=E 5B5=F 5B6=10 5B7=11 5B8=12 5B9-5BA=13 5BB=14 5BC=15 5BD=16 " ++
  "5BF=17 5C1=18 5C2=19 5C4=E6 5C5=DC 5C7=12 610-617=E6 618=1E 619=1F 61A=20 64B=1B 64C=1C " ++
  "64D=1D 64E=1E 64F=1F 650=20 651=21 652=22 653-654=E6 655-656=DC 657-65B=E6 65C=DC " ++
  "65D-65E=E6 65F=DC 670=23 6D6-6DC=E6 6DF-6E2=E6 6E3=DC 6E4=E6 6E7-6E8=E6 6EA=DC " ++
  "6EB-6EC=E6 6ED=DC 711=24 730=E6 731=DC 732-733=E6 734=DC 735-736=E6 737-739=DC 73A=E6 " ++
  "73B-73C=DC 73D=E6 73E=DC 73F-741=E6 742=DC 743=E6 744=DC 745=E6 746=DC 747=E6 748=DC " ++
  "749-74A=E6 7EB-7F1=E6 7F2=DC 7F3=E6 7FD=DC 816-819=E6 81B-823=E6 825-827=E6 829-82D=E6 " ++
  "859-85B=DC 898=E6 899-89B=DC 89C-89F=E6 8CA-8CE=E6 8CF-8D3=DC 8D4-8E1=E6 8E3=DC " ++
  "8E4-8E5=E6 8E6=DC 8E7-8E8=E6 8E9=DC 8EA-8EC=E6 8ED-8EF=DC 8F0=1B 8F1=1C 8F2=1D " ++
  "8F3-8F5=E6 8F6=DC 8F7-8F8=E6 8F9-8FA=DC 8FB-8FF=E6 93C=7 94D=9 951=E6 952=DC 953-954=E6 " ++
  "9BC=7 9CD=9 9FE=E6 A3C=7 A4D=9 ABC=7 ACD=9 B3C=7 B4D=9 BCD=9 C3C=7 C4D=9 C55=54 C56=5B " ++
  "CBC=7 CCD=9 D3B-D3C=9 D4D=9 DCA=9 E38-E39=67 E3A=9 E48-E4B=6B EB8-EB9=76 EBA=9 " ++
  "EC8-ECB=7A F18-F19=DC F35=DC F37=DC F39=D8 F71=81 F72=82 F74=84 F7A-F7D=82 F80=82 " ++
  "F82-F83=E6 F84=9 F86-F87=E6 FC6=DC 1037=7 1039-103A=9 108D=DC 135D-135F=E6 1714-1715=9 " ++
  "1734=9 17D2=9 17DD=E6 18A9=E4 1939=DE 193A=E6 193B=DC 1A17=E6 1A18=DC 1A60=9 " ++
  "1A75-1A7C=E6 1A7F=DC 1AB0-1AB4=E6 1AB5-1ABA=DC 1ABB-1ABC=E6 1ABD=DC 1ABF-1AC0=DC " ++
  "1AC1-1AC2=E6 1AC3-1AC4=DC 1AC5-1AC9=E6 1ACA=DC 1ACB-1ACE=E6 1B34=7 1B44=9 1B6B=E6 " ++
  "1B6C=DC 1B6D-1B73=E6 1BAA-1BAB=9 1BE6=7 1BF2-1BF3=9 1C37=7 1CD0-1CD2=E6 1CD4=1 " ++
  "1CD5-1CD9=DC 1CDA-1CDB=E6 1CDC-1CDF=DC 1CE0=E6 1CE2-1CE8=1 1CED=DC 1CF4=E6 1CF8-1CF9=E6 " ++
  "1DC0-1DC1=E6 1DC2=DC 1DC3-1DC9=E6 1DCA=DC 1DCB-1DCC=E6 1DCD=EA 1DCE=D6 1DCF=DC 1DD0=CA " ++
  "1DD1-1DF5=E6 1DF6=E8 1DF7-1DF8=E4 1DF9=DC 1DFA=DA 1DFB=E6 1DFC=E9 1DFD=DC 1DFE=E6 " ++
  "1DFF=DC 20D0-20D1=E6 20D2-20D3=1 20D4-20D7=E6 20D8-20DA=1 20DB-20DC=E6 20E1=E6 " ++
  "20E5-20E6=1 20E7=E6 20E8=DC 20E9=E6 20EA-20EB=1 20EC-20EF=DC 20F0=E6 2CEF-2CF1=E6 2D7F=9 " ++
  "2DE0-2DFF=E6 302A=DA 302B=E4 302C=E8 302D=DE 302E-302F=E0 3099-309A=8 A66F=E6 " ++
  "A674-A67D=E6 A69E-A69F=E6 A6F0-A6F1=E6 A806=9 A82C=9 A8C4=9 A8E0-A8F1=E6 A92B-A92D=DC " ++
  "A953=9 A9B3=7 A9C0=9 AAB0=E6 AAB2-AAB3=E6 AAB4=DC AAB7-AAB8=E6 AABE-AABF=E6 AAC1=E6 " ++
  "AAF6=9 ABED=9 FB1E=1A FE20-FE26=E6 FE27-FE2D=DC FE2E-FE2F=E6 101FD=DC 102E0=DC " ++
  "10376-1037A=E6 10A0D=DC 10A0F=E6 10A38=E6 10A39=1 10A3A=DC 10A3F=9 10AE5=E6 10AE6=DC " ++
  "10D24-10D27=E6 10EAB-10EAC=E6 10F46-10F47=DC 10F48-10F4A=E6 10F4B=DC 10F4C=E6 " ++
  "10F4D-10F50=DC 10F82=E6 10F83=DC 10F84=E6 10F85=DC 11046=9 11070=9 1107F=9 110B9=9 " ++
  "110BA=7 11100-11102=E6 11133-11134=9 11173=7 111C0=9 111CA=7 11235=9 11236=7 112E9=7 " ++
  "112EA=9 1133B-1133C=7 1134D=9 11366-1136C=E6 11370-11374=E6 11442=9 11446=7 1145E=E6 " ++
  "114C2=9 114C3=7 115BF=9 115C0=7 1163F=9 116B6=9 116B7=7 1172B=9 11839=9 1183A=7 " ++
  "1193D-1193E=9 11943=7 119E0=9 11A34=9 11A47=9 11A99=9 11C3F=9 11D42=7 11D44-11D45=9 " ++
  "11D97=9 16AF0-16AF4=1 16B30-16B36=E6 16FF0-16FF1=6 1BC9E=1 1D165-1D166=D8 1D167-1D169=1 " ++
  "1D16D=E2 1D16E-1D172=D8 1D17B-1D182=DC 1D185-1D189=E6 1D18A-1D18B=DC 1D1AA-1D1AD=E6 " ++
  "1D242-1D244=E6 1E000-1E006=E6 1E008-1E018=E6 1E01B-1E021=E6 1E023-1E024=E6 " ++
  "1E026-1E02A=E6 1E130-1E136=E6 1E2AE=E6 1E2EC-1E2EF=E6 1E8D0-1E8D6=DC 1E944-1E949=E6 " ++
  "1E94A=7")

end NormalTable
end Text
end PolicyStudio
