import TagSpacing.Unicode.Category
import TagSpacing.Unicode.RunTable

/-! The general category of every character. -/
namespace TagSpacing.Unicode

/-- Consecutive characters from U+0000 on: each word gives a category and, in hexadecimal, how many
characters in a row have it, one if no number stands there. -/
def categoryRuns : String := "
  Cc20 Zs Po3 Sc Po3 Ps Pe Po Sm Po Pd Po2 Nda Po2 Sm3 Po2 Lu1a Ps Po Pe Sk Pc Sk Ll1a Ps Sm Pe
  Sm Cc21 Zs Po Sc4 So Po Sk So Lo Pi Sm Cf So Sk So Sm No2 Sk Ll Po2 Sk No Lo Pf No3 Po Lu17 Sm
  Lu7 Ll18 Sm Ll8 Lu Ll Lu Ll Lu Ll Lu Ll Lu Ll Lu Ll Lu Ll Lu Ll Lu Ll Lu Ll Lu Ll Lu Ll Lu Ll
  Lu Ll Lu Ll Lu Ll Lu Ll Lu Ll Lu Ll Lu Ll Lu Ll Lu Ll Lu Ll Lu Ll Lu Ll Lu Ll Lu Ll Lu Ll2 Lu
  Ll Lu Ll Lu Ll Lu Ll Lu Ll Lu Ll Lu Ll Lu Ll2 Lu Ll Lu Ll Lu Ll Lu Ll Lu Ll Lu Ll Lu Ll Lu Ll
  Lu Ll Lu Ll Lu Ll Lu Ll Lu Ll Lu Ll Lu Ll Lu Ll Lu Ll Lu Ll Lu Ll Lu Ll Lu Ll Lu Ll Lu Ll Lu2
  Ll Lu Ll Lu Ll3 Lu2 Ll Lu Ll Lu2 Ll Lu3 Ll2 Lu4 Ll Lu2 Ll Lu3 Ll3 Lu2 Ll Lu2 Ll Lu Ll Lu Ll
  Lu2 Ll Lu Ll2 Lu Ll Lu2 Ll Lu3 Ll Lu Ll Lu2 Ll2 Lo Lu Ll3 Lo4 Lu Lt Ll Lu Lt Ll Lu Lt Ll Lu Ll
  Lu Ll Lu Ll Lu Ll Lu Ll Lu Ll Lu Ll Lu Ll2 Lu Ll Lu Ll Lu Ll Lu Ll Lu Ll Lu Ll Lu Ll Lu Ll Lu
  Ll2 Lu Lt Ll Lu Ll Lu3 Ll Lu Ll Lu Ll Lu Ll Lu Ll Lu Ll Lu Ll Lu Ll Lu Ll Lu Ll Lu Ll Lu Ll Lu
  Ll Lu Ll Lu Ll Lu Ll Lu Ll Lu Ll Lu Ll Lu Ll Lu Ll Lu Ll Lu Ll Lu Ll Lu Ll Lu Ll Lu Ll Lu Ll
  Lu Ll Lu Ll7 Lu2 Ll Lu2 Ll2 Lu Ll Lu4 Ll Lu Ll Lu Ll Lu Ll Lu Ll45 Lo Ll1b Lm12 Sk4 Lmc Ske
  Lm5 Sk7 Lm Sk Lm Sk11 Mn70 Lu Ll Lu Ll Lm Sk Lu Ll Cn2 Lm Ll3 Po Lu Cn4 Sk2 Lu Po Lu3 Cn Lu Cn
  Lu2 Ll Lu11 Cn Lu9 Ll23 Lu Ll2 Lu3 Ll3 Lu Ll Lu Ll Lu Ll Lu Ll Lu Ll Lu Ll Lu Ll Lu Ll Lu Ll
  Lu Ll Lu Ll Lu Ll5 Lu Ll Sm Lu Ll Lu2 Ll2 Lu33 Ll30 Lu Ll Lu Ll Lu Ll Lu Ll Lu Ll Lu Ll Lu Ll
  Lu Ll Lu Ll Lu Ll Lu Ll Lu Ll Lu Ll Lu Ll Lu Ll Lu Ll Lu Ll So Mn5 Me2 Lu Ll Lu Ll Lu Ll Lu Ll
  Lu Ll Lu Ll Lu Ll Lu Ll Lu Ll Lu Ll Lu Ll Lu Ll Lu Ll Lu Ll Lu Ll Lu Ll Lu Ll Lu Ll Lu Ll Lu
  Ll Lu Ll Lu Ll Lu Ll Lu Ll Lu Ll Lu Ll Lu Ll Lu2 Ll Lu Ll Lu Ll Lu Ll Lu Ll Lu Ll Lu Ll2 Lu Ll
  Lu Ll Lu Ll Lu Ll Lu Ll Lu Ll Lu Ll Lu Ll Lu Ll Lu Ll Lu Ll Lu Ll Lu Ll Lu Ll Lu Ll Lu Ll Lu
  Ll Lu Ll Lu Ll Lu Ll Lu Ll Lu Ll Lu Ll Lu Ll Lu Ll Lu Ll Lu Ll Lu Ll Lu Ll Lu Ll Lu Ll Lu Ll
  Lu Ll Lu Ll Lu Ll Lu Ll Lu Ll Lu Ll Lu Ll Lu Ll Lu Ll Lu Ll Lu Ll Lu Ll Lu Ll Lu Ll Lu Ll Lu
  Ll Cn Lu26 Cn2 Lm Po6 Ll29 Po Pd Cn2 So2 Sc Cn Mn2d Pd Mn Po Mn2 Po Mn2 Po Mn Cn8 Lo1b Cn4 Lo4
  Po2 Cnb Cf6 Sm3 Po2 Sc Po2 So2 Mnb Po Cf Po3 Lo20 Lm Loa Mn15 Nda Po4 Lo2 Mn Lo63 Po Lo Mn7 Cf
  So Mn6 Lm2 Mn2 So Mn4 Lo2 Nda Lo3 So2 Lo Poe Cn Cf Lo Mn Lo1e Mn1b Cn2 Lo59 Mnb Lo Cne Nda
  Lo21 Mn9 Lm2 So Po3 Lm Cn2 Mn Sc2 Lo16 Mn4 Lm Mn9 Lm Mn3 Lm Mn5 Cn2 Pof Cn Lo19 Mn3 Cn2 Po Cn
  Lob Cn5 Lo18 Sk Lo6 Cn Cf2 Cn6 Mn8 Lo29 Lm Mn18 Cf Mn20 Mc Lo36 Mn Mc Mn Lo Mc3 Mn8 Mc4 Mn Mc2
  Lo Mn7 Loa Mn2 Po2 Nda Po Lm Lof Mn Mc2 Cn Lo8 Cn2 Lo2 Cn2 Lo16 Cn Lo7 Cn Lo Cn3 Lo4 Cn2 Mn Lo
  Mc3 Mn4 Cn2 Mc2 Cn2 Mc2 Mn Lo Cn8 Mc Cn4 Lo2 Cn Lo3 Mn2 Cn2 Nda Lo2 Sc2 No6 So Sc Lo Po Mn Cn2
  Mn2 Mc Cn Lo6 Cn4 Lo2 Cn2 Lo16 Cn Lo7 Cn Lo2 Cn Lo2 Cn Lo2 Cn2 Mn Cn Mc3 Mn2 Cn4 Mn2 Cn2 Mn3
  Cn3 Mn Cn7 Lo4 Cn Lo Cn7 Nda Mn2 Lo3 Mn Po Cna Mn2 Mc Cn Lo9 Cn Lo3 Cn Lo16 Cn Lo7 Cn Lo2 Cn
  Lo5 Cn2 Mn Lo Mc3 Mn5 Cn Mn2 Mc Cn Mc2 Mn Cn2 Lo Cnf Lo2 Mn2 Cn2 Nda Po Sc Cn7 Lo Mn6 Cn Mn
  Mc2 Cn Lo8 Cn2 Lo2 Cn2 Lo16 Cn Lo7 Cn Lo2 Cn Lo5 Cn2 Mn Lo Mc Mn Mc Mn4 Cn2 Mc2 Cn2 Mc2 Mn Cn7
  Mn2 Mc Cn4 Lo2 Cn Lo3 Mn2 Cn2 Nda So Lo No6 Cna Mn Lo Cn Lo6 Cn3 Lo3 Cn Lo4 Cn3 Lo2 Cn Lo Cn
  Lo2 Cn3 Lo2 Cn3 Lo3 Cn3 Loc Cn4 Mc2 Mn Mc2 Cn3 Mc3 Cn Mc3 Mn Cn2 Lo Cn6 Mc Cne Nda No3 So6 Sc
  So Cn5 Mn Mc3 Mn Lo8 Cn Lo3 Cn Lo17 Cn Lo10 Cn2 Mn Lo Mn3 Mc4 Cn Mn3 Cn Mn4 Cn7 Mn2 Cn Lo3 Cn2
  Lo Cn2 Lo2 Mn2 Cn2 Nda Cn7 Po No7 So Lo Mn Mc2 Po Lo8 Cn Lo3 Cn Lo17 Cn Loa Cn Lo5 Cn2 Mn Lo
  Mc Mn Mc5 Cn Mn Mc2 Cn Mc2 Mn2 Cn7 Mc2 Cn6 Lo2 Cn Lo2 Mn2 Cn2 Nda Cn Lo2 Mc Cnc Mn2 Mc2 Lo9 Cn
  Lo3 Cn Lo29 Mn2 Lo Mc3 Mn4 Cn Mc3 Cn Mc3 Mn Lo So Cn4 Lo3 Mc No7 Lo3 Mn2 Cn2 Nda No9 So Lo6 Cn
  Mn Mc2 Cn Lo12 Cn3 Lo18 Cn Lo9 Cn Lo Cn2 Lo7 Cn3 Mn Cn4 Mc3 Mn3 Cn Mn Cn Mc8 Cn6 Nda Cn2 Mc2
  Po Cnc Lo30 Mn Lo2 Mn7 Cn4 Sc Lo6 Lm Mn8 Po Nda Po2 Cn25 Lo2 Cn Lo Cn Lo5 Cn Lo18 Cn Lo Cn Loa
  Mn Lo2 Mn9 Lo Cn2 Lo5 Cn Lm Cn Mn7 Cn Nda Cn2 Lo4 Cn20 Lo So3 Pof So Po So3 Mn2 So6 Nda Noa So
  Mn So Mn So Mn Ps Pe Ps Pe Mc2 Lo8 Cn Lo24 Cn4 Mne Mc Mn5 Po Mn2 Lo5 Mnb Cn Mn24 Cn So8 Mn So6
  Cn So2 Po5 So4 Po2 Cn25 Lo2b Mc2 Mn4 Mc Mn6 Mc Mn2 Mc2 Mn2 Lo Nda Po6 Lo6 Mc2 Mn2 Lo4 Mn3 Lo
  Mc3 Lo2 Mc7 Lo3 Mn4 Lod Mn Mc2 Mn2 Mc6 Mn Lo Mc Nda Mc3 Mn So2 Lu26 Cn Lu Cn5 Lu Cn2 Ll2b Po
  Lm Ll3 Lo149 Cn Lo4 Cn2 Lo7 Cn Lo Cn Lo4 Cn2 Lo29 Cn Lo4 Cn2 Lo21 Cn Lo4 Cn2 Lo7 Cn Lo Cn Lo4
  Cn2 Lof Cn Lo39 Cn Lo4 Cn2 Lo43 Cn2 Mn3 Po9 No14 Cn3 Lo10 Soa Cn6 Lu56 Cn2 Ll6 Cn2 Pd Lo26c So
  Po Lo11 Zs Lo1a Ps Pe Cn3 Lo4b Po3 Nl3 Lo8 Cn7 Lo12 Mn3 Mc Cn9 Lo13 Mn2 Mc Po2 Cn9 Lo12 Mn2
  Cnc Lod Cn Lo3 Cn Mn2 Cnc Lo34 Mn2 Mc Mn7 Mc8 Mn Mc2 Mnb Po3 Lm Po3 Sc Lo Mn Cn2 Nda Cn6 Noa
  Cn6 Po6 Pd Po4 Mn3 Cf Mn Nda Cn6 Lo23 Lm Lo35 Cn7 Lo5 Mn2 Lo22 Mn Lo Cn5 Lo46 Cna Lo1f Cn Mn3
  Mc4 Mn2 Mc3 Cn4 Mc2 Mn Mc6 Mn3 Cn4 So Cn3 Po2 Nda Lo1e Cn2 Lo5 Cnb Lo2c Cn4 Lo1a Cn6 Nda No
  Cn3 So22 Lo17 Mn2 Mc2 Mn Cn2 Po2 Lo35 Mc Mn Mc Mn7 Cn Mn Mc Mn Mc2 Mn8 Mc6 Mna Cn2 Mn Nda Cn6
  Nda Cn6 Po7 Lm Po6 Cn2 Mne Me Mn10 Cn31 Mn4 Mc Lo2f Mn Mc Mn5 Mc Mn Mc5 Mn Mc2 Lo8 Cn3 Nda Po7
  Soa Mn9 So9 Po2 Cn Mn2 Mc Lo1e Mc Mn4 Mc2 Mn2 Mc Mn3 Lo2 Nda Lo2c Mn Mc Mn2 Mc3 Mn Mc Mn3 Mc2
  Cn8 Po4 Lo24 Mc8 Mn8 Mc2 Mn2 Cn3 Po5 Nda Cn3 Lo3 Nda Lo1e Lm6 Po2 Ll9 Cn7 Lu2b Cn2 Lu3 Po8 Cn8
  Mn3 Po Mnd Mc Mn7 Lo4 Mn Lo6 Mn Lo2 Mc Mn2 Lo Cn5 Ll2c Lm3f Lld Lm Ll22 Lm25 Mn40 Lu Ll Lu Ll
  Lu Ll Lu Ll Lu Ll Lu Ll Lu Ll Lu Ll Lu Ll Lu Ll Lu Ll Lu Ll Lu Ll Lu Ll Lu Ll Lu Ll Lu Ll Lu
  Ll Lu Ll Lu Ll Lu Ll Lu Ll Lu Ll Lu Ll Lu Ll Lu Ll Lu Ll Lu Ll Lu Ll Lu Ll Lu Ll Lu Ll Lu Ll
  Lu Ll Lu Ll Lu Ll Lu Ll Lu Ll Lu Ll Lu Ll Lu Ll Lu Ll Lu Ll Lu Ll Lu Ll Lu Ll Lu Ll Lu Ll Lu
  Ll Lu Ll Lu Ll Lu Ll Lu Ll Lu Ll Lu Ll Lu Ll Lu Ll Lu Ll Lu Ll Lu Ll Lu Ll Lu Ll Lu Ll Lu Ll
  Lu Ll Lu Ll Lu Ll Lu Ll Lu Ll Lu Ll Lu Ll Lu Ll Lu Ll Lu Ll Lu Ll9 Lu Ll Lu Ll Lu Ll Lu Ll Lu
  Ll Lu Ll Lu Ll Lu Ll Lu Ll Lu Ll Lu Ll Lu Ll Lu Ll Lu Ll Lu Ll Lu Ll Lu Ll Lu Ll Lu Ll Lu Ll
  Lu Ll Lu Ll Lu Ll Lu Ll Lu Ll Lu Ll Lu Ll Lu Ll Lu Ll Lu Ll Lu Ll Lu Ll Lu Ll Lu Ll Lu Ll Lu
  Ll Lu Ll Lu Ll Lu Ll Lu Ll Lu Ll Lu Ll Lu Ll Lu Ll Lu Ll Lu Ll Lu Ll Lu Ll Lu Ll9 Lu8 Ll6 Cn2
  Lu6 Cn2 Ll8 Lu8 Ll8 Lu8 Ll6 Cn2 Lu6 Cn2 Ll8 Cn Lu Cn Lu Cn Lu Cn Lu Ll8 Lu8 Lle Cn2 Ll8 Lt8
  Ll8 Lt8 Ll8 Lt8 Ll5 Cn Ll2 Lu4 Lt Sk Ll Sk3 Ll3 Cn Ll2 Lu4 Lt Sk3 Ll4 Cn2 Ll2 Lu4 Cn Sk3 Ll8
  Lu5 Sk3 Cn2 Ll3 Cn Ll2 Lu4 Lt Sk2 Cn Zsb Cf5 Pd6 Po2 Pi Pf Ps Pi2 Pf Ps Pi Po8 Zl Zp Cf5 Zs
  Po9 Pi Pf Po4 Pc2 Po3 Sm Ps Pe Pob Sm Po Pc Poa Zs Cf5 Cn Cfa No Lm Cn2 No6 Sm3 Ps Pe Lm Noa
  Sm3 Ps Pe Cn Lmd Cn3 Sc21 Cnf Mnd Me4 Mn Me3 Mnc Cnf So2 Lu So4 Lu So2 Ll Lu3 Ll2 Lu3 Ll So Lu
  So2 Sm Lu5 So6 Lu So Lu So Lu So Lu4 So Ll Lu4 Ll Lo4 Ll So2 Ll2 Lu2 Sm5 Lu Ll4 So Sm So2 Ll
  So No10 Nl23 Lu Ll Nl4 No So2 Cn4 Sm5 So5 Sm2 So4 Sm So2 Sm So2 Sm So7 Sm So1f Sm2 So2 Sm So
  Sm So1f Sm10c So8 Ps Pe Ps Pe So14 Sm2 So7 Ps Pe So51 Sm So1e Sm19 So28 Sm6 So45 Cn19 Sob Cn15
  No3c So4e No16 Sob7 Sm So9 Sm So36 Sm8 So6f Sm Sof8 Ps Pe Ps Pe Ps Pe Ps Pe Ps Pe Ps Pe Ps Pe
  No1e So2c Sm5 Ps Pe Sm1f Ps Pe Ps Pe Ps Pe Ps Pe Ps Pe Sm10 So100 Sm83 Ps Pe Ps Pe Ps Pe Ps Pe
  Ps Pe Ps Pe Ps Pe Ps Pe Ps Pe Ps Pe Ps Pe Sm3f Ps Pe Ps Pe Sm20 Ps Pe Sm102 So30 Sm15 So2 Sm6
  So27 Cn2 So20 Cn So69 Lu30 Ll30 Lu Ll Lu3 Ll2 Lu Ll Lu Ll Lu Ll Lu4 Ll Lu Ll2 Lu Ll6 Lm2 Lu3
  Ll Lu Ll Lu Ll Lu Ll Lu Ll Lu Ll Lu Ll Lu Ll Lu Ll Lu Ll Lu Ll Lu Ll Lu Ll Lu Ll Lu Ll Lu Ll
  Lu Ll Lu Ll Lu Ll Lu Ll Lu Ll Lu Ll Lu Ll Lu Ll Lu Ll Lu Ll Lu Ll Lu Ll Lu Ll Lu Ll Lu Ll Lu
  Ll Lu Ll Lu Ll Lu Ll Lu Ll Lu Ll Lu Ll Lu Ll Lu Ll Lu Ll Lu Ll Lu Ll Lu Ll Lu Ll Lu Ll Lu Ll
  Lu Ll Lu Ll Lu Ll2 So6 Lu Ll Lu Ll Mn3 Lu Ll Cn5 Po4 No Po2 Ll26 Cn Ll Cn5 Ll Cn2 Lo38 Cn7 Lm
  Po Cne Mn Lo17 Cn9 Lo7 Cn Lo7 Cn Lo7 Cn Lo7 Cn Lo7 Cn Lo7 Cn Lo7 Cn Lo7 Cn Mn20 Po2 Pi Pf Pi
  Pf Po3 Pi Pf Po Pi Pf Po9 Pd Po2 Pd Po Pi Pf Po2 Pi Pf Ps Pe Ps Pe Ps Pe Ps Pe Po5 Lm Poa Pd2
  Po4 Pd Po Ps Pod So2 Po3 Ps Pe Ps Pe Ps Pe Ps Pe Pd Cn22 So1a Cn So59 Cnc Sod6 Cn1a Soc Cn4 Zs
  Po3 So Lm Lo Nl Ps Pe Ps Pe Ps Pe Ps Pe Ps Pe So2 Ps Pe Ps Pe Ps Pe Ps Pe Pd Ps Pe2 So Nl9 Mn4
  Mc2 Pd Lm5 So2 Nl3 Lm Lo Po So2 Cn Lo56 Cn2 Mn2 Sk2 Lm2 Lo Pd Lo5a Po Lm3 Lo Cn5 Lo2b Cn Lo5e
  Cn So2 No4 Soa Lo20 So24 Cnc Lo10 So1f Cn Noa So1e No8 So Nof So20 Noa So27 Nof So140 Lo19c0
  So40 Lo5215 Lm Lo477 Cn3 So37 Cn9 Lo28 Lm6 Po2 Lo10c Lm Po3 Lo10 Nda Lo2 Cn14 Lu Ll Lu Ll Lu
  Ll Lu Ll Lu Ll Lu Ll Lu Ll Lu Ll Lu Ll Lu Ll Lu Ll Lu Ll Lu Ll Lu Ll Lu Ll Lu Ll Lu Ll Lu Ll
  Lu Ll Lu Ll Lu Ll Lu Ll Lu Ll Lo Mn Me3 Po Mna Po Lm Lu Ll Lu Ll Lu Ll Lu Ll Lu Ll Lu Ll Lu Ll
  Lu Ll Lu Ll Lu Ll Lu Ll Lu Ll Lu Ll Lu Ll Lm2 Mn2 Lo46 Nla Mn2 Po6 Cn8 Sk17 Lm9 Sk2 Lu Ll Lu
  Ll Lu Ll Lu Ll Lu Ll Lu Ll Lu Ll3 Lu Ll Lu Ll Lu Ll Lu Ll Lu Ll Lu Ll Lu Ll Lu Ll Lu Ll Lu Ll
  Lu Ll Lu Ll Lu Ll Lu Ll Lu Ll Lu Ll Lu Ll Lu Ll Lu Ll Lu Ll Lu Ll Lu Ll Lu Ll Lu Ll Lu Ll Lu
  Ll Lu Ll Lu Ll Lu Ll Lu Ll Lu Ll Lm Ll8 Lu Ll Lu Ll Lu2 Ll Lu Ll Lu Ll Lu Ll Lu Ll Lm Sk2 Lu
  Ll Lu Ll Lo Lu Ll Lu Ll3 Lu Ll Lu Ll Lu Ll Lu Ll Lu Ll Lu Ll Lu Ll Lu Ll Lu Ll Lu Ll Lu5 Ll
  Lu5 Ll Lu Ll Lu Ll Lu Ll Lu Ll Lu Ll Lu Ll Lu Ll Lu4 Ll Lu Ll Cn5 Lu Ll Cn Ll Cn Ll Lu Ll Lu
  Ll Cn18 Lm3 Lu Ll Lo Lm2 Ll Lo7 Mn Lo3 Mn Lo4 Mn Lo17 Mc2 Mn2 Mc So4 Mn Cn3 No6 So2 Sc So Cn6
  Lo34 Po4 Cn8 Mc2 Lo32 Mc10 Mn2 Cn8 Po2 Nda Cn6 Mn12 Lo6 Po3 Lo Po Lo2 Mn Nda Lo1c Mn8 Po2 Lo17
  Mnb Mc2 Cnb Po Lo1d Cn3 Mn3 Mc Lo2f Mn Mc2 Mn4 Mc2 Mn2 Mc3 Pod Cn Lm Nda Cn4 Po2 Lo5 Mn Lm Lo9
  Nda Lo5 Cn Lo29 Mn6 Mc2 Mn2 Mc2 Mn2 Cn9 Lo3 Mn Lo8 Mn Mc Cn2 Nda Cn2 Po4 Lo10 Lm Lo6 So3 Lo Mc
  Mn Mc Lo32 Mn Lo Mn3 Lo2 Mn2 Lo5 Mn2 Lo Mn Lo Cn18 Lo2 Lm Po2 Lob Mc Mn2 Mc2 Po2 Lo Lm2 Mc Mn
  Cna Lo6 Cn2 Lo6 Cn2 Lo6 Cn9 Lo7 Cn Lo7 Cn Ll2b Sk Lm4 Ll9 Lm Sk2 Cn4 Ll50 Lo23 Mc2 Mn Mc2 Mn
  Mc2 Po Mc Mn Cn2 Nda Cn6 Lo2ba4 Cnc Lo17 Cn4 Lo31 Cn4 Cs800 Co1900 Lo16e Cn2 Lo6a Cn26 Ll7 Cnc
  Ll5 Cn5 Lo Mn Loa Sm Lod Cn Lo5 Cn Lo Cn Lo2 Cn Lo2 Cn Lo6c Sk11 Cn10 Lo16b Pe Ps So10 Lo40
  Cn2 Lo36 Cn7 So Cn20 Loc Sc So3 Mn10 Po7 Ps Pe Po Cn6 Mn10 Po Pd2 Pc2 Ps Pe Ps Pe Ps Pe Ps Pe
  Ps Pe Ps Pe Ps Pe Ps Pe Po2 Ps Pe Po4 Pc3 Po3 Cn Po4 Pd Ps Pe Ps Pe Ps Pe Po3 Sm Pd Sm3 Cn Po
  Sc Po2 Cn4 Lo5 Cn Lo87 Cn2 Cf Cn Po3 Sc Po3 Ps Pe Po Sm Po Pd Po2 Nda Po2 Sm3 Po2 Lu1a Ps Po
  Pe Sk Pc Sk Ll1a Ps Sm Pe Sm Ps Pe Po Ps Pe Po2 Loa Lm Lo2d Lm2 Lo1f Cn3 Lo6 Cn2 Lo6 Cn2 Lo6
  Cn2 Lo3 Cn3 Sc2 Sm Sk So Sc2 Cn So Sm4 So2 Cna Cf3 So2 Cn2 Loc Cn Lo1a Cn Lo13 Cn Lo2 Cn Lof
  Cn2 Loe Cn22 Lo7b Cn5 Po3 Cn4 No2d Cn3 So9 Nl35 No4 So11 No2 So3 Cn Sod Cn3 So Cn2f So2d Mn
  Cn82 Lo1d Cn3 Lo31 Cnf Mn No1b Cn4 Lo20 No4 Cn9 Lo14 Nl Lo8 Nl Cn5 Lo26 Mn5 Cn5 Lo1e Cn Po
  Lo24 Cn4 Lo8 Po Nl5 Cn2a Lu28 Ll28 Lo4e Cn2 Nda Cn6 Lu24 Cn4 Ll24 Cn4 Lo28 Cn8 Lo34 Cnb Po Lub
  Cn Luf Cn Lu7 Cn Lu2 Cn Llb Cn Llf Cn Ll7 Cn Ll2 Cn43 Lo137 Cn9 Lo16 Cna Lo8 Cn18 Lm6 Cn Lm2a
  Cn Lm9 Cn45 Lo6 Cn2 Lo Cn Lo2c Cn Lo2 Cn3 Lo Cn2 Lo17 Cn Po No8 Lo17 So2 No7 Lo1f Cn8 No9 Cn30
  Lo13 Cn Lo2 Cn5 No5 Lo16 No6 Cn3 Po Lo1a Cn5 Po Cn40 Lo38 Cn4 No2 Lo2 No10 Cn2 No2e Lo Mn3 Cn
  Mn2 Cn5 Mn4 Lo4 Cn Lo3 Cn Lo1d Cn2 Mn3 Cn4 Mn No9 Cn7 Po9 Cn7 Lo1d No2 Po Lo1d No3 Cn20 Lo8 So
  Lo1c Mn2 Cn4 No5 Po7 Cn9 Lo36 Cn3 Po7 Lo16 Cn2 No8 Lo13 Cn5 No8 Lo12 Cn7 Po4 Cnc No7 Cn50 Lo49
  Cn37 Lu33 Cnd Ll33 Cn7 No6 Lo24 Mn4 Cn8 Nda Cn126 No1f Cn Lo2a Cn Mn2 Pd Cn2 Lo2 Cn4b Mn3 Lo1d
  Noa Lo Cn8 Lo16 Mnb No4 Po5 Cn16 Lo12 Mn4 Po4 Cn26 Lo15 No7 Cn14 Lo17 Cn9 Mc Mn Mc Lo35 Mnf
  Po7 Cn4 No14 Nda Mn Lo2 Mn2 Lo Cn9 Mn3 Mc Lo2d Mc3 Mn4 Mc2 Mn2 Po2 Cf Po4 Mn Cna Cf Cn2 Lo19
  Cn7 Nda Cn6 Mn3 Lo24 Mn5 Mc Mn8 Cn Nda Po4 Lo Mc2 Lo Cn8 Lo23 Mn Po2 Lo Cn9 Mn2 Mc Lo30 Mc3
  Mn9 Mc2 Lo4 Po4 Mn4 Po Mc Mn Nda Lo Po Lo Po3 Cn No14 Cnb Lo12 Cn Lo19 Mc3 Mn3 Mc2 Mn Mc Mn2
  Po6 Mn Lo2 Mn Cn3e Lo7 Cn Lo Cn Lo4 Cn Lof Cn Loa Po Cn6 Lo2f Mn Mc3 Mn8 Cn5 Nda Cn6 Mn2 Mc2
  Cn Lo8 Cn2 Lo2 Cn2 Lo16 Cn Lo7 Cn Lo2 Cn Lo5 Cn Mn2 Lo Mc2 Mn Mc4 Cn2 Mc2 Cn2 Mc3 Cn2 Lo Cn6
  Mc Cn5 Lo5 Mc2 Cn2 Mn7 Cn3 Mn5 Cn8b Lo35 Mc3 Mn8 Mc2 Mn3 Mc Mn Lo4 Po5 Nda Po2 Cn Po Mn Lo3
  Cn1e Lo30 Mc3 Mn6 Mc Mn Mc4 Mn2 Mc Mn2 Lo2 Po Lo Cn8 Nda Cna6 Lo2f Mc3 Mn4 Cn2 Mc4 Mn2 Mc Mn2
  Po17 Lo4 Mn2 Cn22 Lo30 Mc3 Mn8 Mc2 Mn Mc Mn2 Po3 Lo Cnb Nda Cn6 Pod Cn13 Lo2b Mn Mc Mn Mc2 Mn6
  Mc Mn Lo Po Cn6 Nda Cn36 Lo1b Cn2 Mn3 Mc2 Mn4 Mc Mn5 Cn4 Nda No2 Po3 So Lo7 Cnb9 Lo2c Mc3 Mn9
  Mc Mn2 Po Cn64 Lu20 Ll20 Nda No9 Cnc Lo8 Cn2 Lo Cn2 Lo8 Cn Lo2 Cn Lo18 Mc6 Cn Mc2 Cn2 Mn2 Mc
  Mn Lo Mc Lo Mc Mn Po3 Cn9 Nda Cn46 Lo8 Cn2 Lo27 Mc3 Mn4 Cn2 Mn2 Mc4 Mn Lo Po Lo Mc Cn1b Lo Mna
  Lo28 Mn6 Mc Lo Mn4 Po8 Mn Cn8 Lo Mn6 Mc2 Mn3 Lo2e Mnd Mc Mn2 Po3 Lo Po5 Cnd Lo49 Cn7 Poa Cnf6
  Lo9 Cn Lo25 Mc Mn7 Cn Mn6 Mc Mn Lo Po5 Cna Nda No13 Cn3 Po2 Lo1e Cn2 Mn16 Cn Mc Mn7 Mc Mn2 Mc
  Mn2 Cn49 Lo7 Cn Lo2 Cn Lo26 Mn6 Cn3 Mn Cn Mn2 Cn Mn7 Lo Mn Cn8 Nda Cn6 Lo6 Cn Lo2 Cn Lo20 Mc5
  Cn Mn2 Cn Mc2 Mn Mc Mn Lo Cn7 Nda Cn136 Lo13 Mn2 Mc2 Po2 Cn7 Mn2 Lo Mc Lod Cn Lo22 Mc2 Mn5 Cn3
  Mc2 Mn Mc Mn Pod Nda Cn56 Lo Cnf No15 So8 Sc4 So11 Cnd Po Lo39a Cn66 Nl6f Cn Po5 Cnb Loc4
  Cna4c Lo61 Po2 Cnd Lo430 Cf10 Mn Lo6 Mnf Cnfaa Lo247 Cn21b9 Lo239 Cn7 Lo1f Cn Nda Cn4 Po2 Lo4f
  Cn Nda Cn6 Lo1e Cn2 Mn5 Po Cna Lo30 Mn7 Po5 So4 Lm4 Po So Cna Nda Cn No7 Cn Lo15 Cn5 Lo13
  Cn2b0 Lu20 Ll20 No17 Po4 Cn65 Lo4b Cn4 Mn Lo Mc37 Cn7 Mn4 Lmd Cn40 Lm2 Po Lm Mn Cnb Mc2 Cne
  Lo17f8 Cn8 Lo4d6 Cn2a Lo9 Cn22e7 Lm4 Cn Lm7 Cn Lm2 Cn Lo123 Cnf Lo Cn1d Lo3 Cn2 Lo Cne Lo4 Cn8
  Lo18c Cn904 Lo6b Cn5 Lod Cn3 Lo9 Cn7 Loa Cn2 So Mn2 Po Cf4 Cn125c Mn2e Cn2 Mn17 Cn9 So74 Cn3c
  Sof6 Cna So27 Cn2 So3c Mc2 Mn3 So3 Mc6 Cf8 Mn8 So2 Mn7 So1e Mn4 So3d Cn15 So42 Mn3 So Cn7a
  No14 Cnc No14 Cnc So57 Cn9 No19 Cn87 Lu1a Ll1a Lu1a Ll7 Cn Ll12 Lu1a Ll1a Lu Cn Lu2 Cn2 Lu Cn2
  Lu2 Cn2 Lu4 Cn Lu8 Ll4 Cn Ll Cn Ll7 Cn Llb Lu1a Ll1a Lu2 Cn Lu4 Cn2 Lu8 Cn Lu7 Cn Ll1a Lu2 Cn
  Lu4 Cn Lu5 Cn Lu Cn3 Lu7 Cn Ll1a Lu1a Ll1a Lu1a Ll1a Lu1a Ll1a Lu1a Ll1a Lu1a Ll1a Lu1a Ll1c
  Cn2 Lu19 Sm Ll19 Sm Ll6 Lu19 Sm Ll19 Sm Ll6 Lu19 Sm Ll19 Sm Ll6 Lu19 Sm Ll19 Sm Ll6 Lu19 Sm
  Ll19 Sm Ll6 Lu Ll Cn2 Nd32 So200 Mn37 So4 Mn32 So8 Mn Soe Mn So2 Po5 Cnf Mn5 Cn Mnf Cn450 Lla
  Lo Ll14 Cn6 Ll6 Cnd5 Mn7 Cn Mn11 Cn2 Mn7 Cn Mn2 Cn Mn5 Cn5 Lm3e Cn21 Mn Cn70 Lo2d Cn3 Mn7 Lm7
  Cn2 Nda Cn4 Lo So Cn140 Lo1e Mn Cn11 Lo2c Mn4 Nda Cn5 Sc Cn1d0 Lo1b Lm Mn4 Nda Cn2e6 Lo7 Cn
  Lo4 Cn Lo2 Cn Lof Cn Loc5 Cn2 No9 Mn7 Cn29 Lu22 Ll22 Mn7 Lm Cn4 Nda Cn4 Po2 Cn311 No3b So No3
  Sc No4 Cn4c No2d So Nof Cnc2 Lo4 Cn Lo1b Cn Lo2 Cn Lo Cn2 Lo Cn Loa Cn Lo4 Cn Lo Cn Lo Cn6 Lo
  Cn4 Lo Cn Lo Cn Lo Cn Lo3 Cn Lo2 Cn Lo Cn2 Lo Cn Lo Cn Lo Cn Lo Cn Lo Cn Lo2 Cn Lo Cn2 Lo4 Cn
  Lo7 Cn Lo4 Cn Lo4 Cn Lo Cn Loa Cn Lo11 Cn5 Lo3 Cn Lo5 Cn Lo11 Cn34 Sm2 Cn10e So2c Cn4 So64 Cnc
  Sof Cn2 Sof Cn Sof Cn So25 Cna Nod Soa1 Cn38 So1d Cnd So2c Cn4 So9 Cn7 So2 Cne So6 Cn9a Sofb
  Sk5 So2d8 Cn4 So11 Cn3 Sod Cn3 So77 Cn4 So5f Cn6 Soc Cn4 So Cnf Soc Cn4 So38 Cn8 Soa Cn6 So28
  Cn8 So1e Cn2 So2 Cn4e So154 Cnc Soe Cn2 Sod Cn3 So9 Cn7 So2e Cn So7 Cn8 Soe Cn4 So9 Cn7 So9
  Cn7 So93 Cn So37 Cn25 Nda Cn406 Loa6e0 Cn20 Lo103a Cn6 Lode Cn2 Lo1682 Cne Lo1d31 Cnc1f Lo21e
  Cn5e2 Lo134b Cn5 Lo1060 Cnadc51 Cf Cn1e Cf60 Cn80 Mnf0 Cnfe10 Cofffe Cn2 Cofffe Cn2 Cn0"

def categoryTable : RunTable Category := .ofRuns Category.ofCode 2 categoryRuns

/-- The general category of a character. -/
def category (c : Char) : Category := categoryTable.get c .cn

end TagSpacing.Unicode
