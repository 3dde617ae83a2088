import Mathlib.Tactic.Common

namespace WireframeGpu

/-! The angle tables of the raster core, as their initialisation files hold
them: 315 rows, a fiftieth of a radian apart. -/

namespace Rom

structure Registers where
  address : BitVec 9 := 0
  q : BitVec 32 := 0
deriving DecidableEq, Repr

def Registers.clock (table : BitVec 9 → BitVec 32) (r : Registers) (address : BitVec 9) :
    Registers where
  address := address
  q := table r.address

/-- A table of the given rows; what lies beyond them is never read. -/
def table (values : List (BitVec 32)) (address : BitVec 9) : BitVec 32 :=
  values.getD address.toNat 0

def sinValues : List (BitVec 32) := [
  0x00000000, 0x0000028F, 0x0000051E, 0x000007AD, 0x00000A3B, 0x00000CC7, 0x00000F53, 0x000011DD,
  0x00001465, 0x000016EA, 0x0000196E, 0x00001BEF, 0x00001E6D, 0x000020E8, 0x00002360, 0x000025D4,
  0x00002844, 0x00002AB0, 0x00002D17, 0x00002F7A, 0x000031D8, 0x00003431, 0x00003685, 0x000038D3,
  0x00003B1C, 0x00003D5E, 0x00003F9A, 0x000041CF, 0x000043FE, 0x00004626, 0x00004846, 0x00004A5F,
  0x00004C71, 0x00004E7B, 0x0000507C, 0x00005276, 0x00005467, 0x0000564F, 0x0000582F, 0x00005A05,
  0x00005BD2, 0x00005D96, 0x00005F50, 0x00006101, 0x000062A8, 0x00006444, 0x000065D6, 0x0000675E,
  0x000068DB, 0x00006A4E, 0x00006BB5, 0x00006D12, 0x00006E63, 0x00006FA9, 0x000070E4, 0x00007213,
  0x00007336, 0x0000744E, 0x0000755A, 0x00007659, 0x0000774D, 0x00007834, 0x0000790F, 0x000079DE,
  0x00007AA0, 0x00007B56, 0x00007BFF, 0x00007C9B, 0x00007D2B, 0x00007DAD, 0x00007E23, 0x00007E8C,
  0x00007EE8, 0x00007F37, 0x00007F79, 0x00007FAE, 0x00007FD6, 0x00007FF0, 0x00007FFE, 0x00007FFF,
  0x00007FF2, 0x00007FD8, 0x00007FB2, 0x00007F7E, 0x00007F3D, 0x00007EEF, 0x00007E94, 0x00007E2C,
  0x00007DB7, 0x00007D36, 0x00007CA7, 0x00007C0C, 0x00007B64, 0x00007AAF, 0x000079EE, 0x00007920,
  0x00007846, 0x00007760, 0x0000766D, 0x0000756F, 0x00007464, 0x0000734D, 0x0000722B, 0x000070FD,
  0x00006FC3, 0x00006E7E, 0x00006D2D, 0x00006BD2, 0x00006A6B, 0x000068F9, 0x0000677D, 0x000065F6,
  0x00006464, 0x000062C9, 0x00006123, 0x00005F73, 0x00005DBA, 0x00005BF7, 0x00005A2A, 0x00005854,
  0x00005676, 0x0000548E, 0x0000529E, 0x000050A5, 0x00004EA4, 0x00004C9B, 0x00004A8A, 0x00004871,
  0x00004651, 0x0000442A, 0x000041FC, 0x00003FC7, 0x00003D8C, 0x00003B4A, 0x00003902, 0x000036B4,
  0x00003461, 0x00003209, 0x00002FAB, 0x00002D48, 0x00002AE1, 0x00002875, 0x00002606, 0x00002392,
  0x0000211B, 0x00001EA0, 0x00001C22, 0x000019A1, 0x0000171E, 0x00001498, 0x00001210, 0x00000F87,
  0x00000CFB, 0x00000A6F, 0x000007E1, 0x00000553, 0x000002C4, 0x00000034, 0xFFFFFDA6, 0xFFFFFB17,
  0xFFFFF888, 0xFFFFF5FA, 0xFFFFF36E, 0xFFFFF0E2, 0xFFFFEE58, 0xFFFFEBD0, 0xFFFFE94A, 0xFFFFE6C6,
  0xFFFFE445, 0xFFFFE1C7, 0xFFFFDF4C, 0xFFFFDCD4, 0xFFFFDA5F, 0xFFFFD7EF, 0xFFFFD583, 0xFFFFD31B,
  0xFFFFD0B7, 0xFFFFCE59, 0xFFFFCBFF, 0xFFFFC9AB, 0xFFFFC75D, 0xFFFFC514, 0xFFFFC2D1, 0xFFFFC095,
  0xFFFFBE5F, 0xFFFFBC2F, 0xFFFFBA07, 0xFFFFB7E6, 0xFFFFB5CC, 0xFFFFB3BA, 0xFFFFB1B0, 0xFFFFAFAD,
  0xFFFFADB3, 0xFFFFABC2, 0xFFFFA9D9, 0xFFFFA7F8, 0xFFFFA621, 0xFFFFA453, 0xFFFFA28F, 0xFFFFA0D3,
  0xFFFF9F22, 0xFFFF9D7B, 0xFFFF9BDD, 0xFFFF9A4A, 0xFFFF98C2, 0xFFFF9744, 0xFFFF95D0, 0xFFFF9468,
  0xFFFF930B, 0xFFFF91B8, 0xFFFF9071, 0xFFFF8F36, 0xFFFF8E06, 0xFFFF8CE1, 0xFFFF8BC9, 0xFFFF8ABC,
  0xFFFF89BB, 0xFFFF88C7, 0xFFFF87DF, 0xFFFF8703, 0xFFFF8633, 0xFFFF8570, 0xFFFF84B9, 0xFFFF840F,
  0xFFFF8372, 0xFFFF82E1, 0xFFFF825E, 0xFFFF81E7, 0xFFFF817D, 0xFFFF8120, 0xFFFF80D0, 0xFFFF808D,
  0xFFFF8057, 0xFFFF802E, 0xFFFF8012, 0xFFFF8004, 0xFFFF8002, 0xFFFF800D, 0xFFFF8026, 0xFFFF804C,
  0xFFFF807F, 0xFFFF80BF, 0xFFFF810B, 0xFFFF8165, 0xFFFF81CC, 0xFFFF8240, 0xFFFF82C1, 0xFFFF834E,
  0xFFFF83E8, 0xFFFF848F, 0xFFFF8543, 0xFFFF8603, 0xFFFF86D0, 0xFFFF87A9, 0xFFFF888E, 0xFFFF8980,
  0xFFFF8A7E, 0xFFFF8B87, 0xFFFF8C9D, 0xFFFF8DBF, 0xFFFF8EEC, 0xFFFF9025, 0xFFFF9169, 0xFFFF92B9,
  0xFFFF9413, 0xFFFF9579, 0xFFFF96EA, 0xFFFF9865, 0xFFFF99EC, 0xFFFF9B7C, 0xFFFF9D17, 0xFFFF9EBC,
  0xFFFFA06B, 0xFFFFA224, 0xFFFFA3E6, 0xFFFFA5B2, 0xFFFFA787, 0xFFFFA965, 0xFFFFAB4C, 0xFFFFAD3B,
  0xFFFFAF34, 0xFFFFB134, 0xFFFFB33C, 0xFFFFB54D, 0xFFFFB765, 0xFFFFB984, 0xFFFFBBAB, 0xFFFFBDD8,
  0xFFFFC00D, 0xFFFFC248, 0xFFFFC489, 0xFFFFC6D0, 0xFFFFC91D, 0xFFFFCB70, 0xFFFFCDC8, 0xFFFFD026,
  0xFFFFD288, 0xFFFFD4EF, 0xFFFFD75A, 0xFFFFD9CA, 0xFFFFDC3D, 0xFFFFDEB4, 0xFFFFE12E, 0xFFFFE3AC,
  0xFFFFE62D, 0xFFFFE8B0, 0xFFFFEB35, 0xFFFFEDBD, 0xFFFFF047, 0xFFFFF2D2, 0xFFFFF55E, 0xFFFFF7EC,
  0xFFFFFA7A, 0xFFFFFD09, 0xFFFFFF98]

def cosValues : List (BitVec 32) := [
  0x00008000, 0x00007FF9, 0x00007FE6, 0x00007FC5, 0x00007F97, 0x00007F5C, 0x00007F14, 0x00007EBF,
  0x00007E5D, 0x00007DEF, 0x00007D73, 0x00007CEA, 0x00007C55, 0x00007BB3, 0x00007B04, 0x00007A48,
  0x00007981, 0x000078AC, 0x000077CB, 0x000076DE, 0x000075E5, 0x000074E0, 0x000073CF, 0x000072B2,
  0x00007189, 0x00007055, 0x00006F15, 0x00006DC9, 0x00006C73, 0x00006B11, 0x000069A5, 0x0000682D,
  0x000066AB, 0x0000651E, 0x00006388, 0x000061E6, 0x0000603B, 0x00005E86, 0x00005CC7, 0x00005AFF,
  0x0000592E, 0x00005753, 0x0000556F, 0x00005383, 0x0000518E, 0x00004F91, 0x00004D8C, 0x00004B7E,
  0x00004969, 0x0000474D, 0x00004529, 0x000042FE, 0x000040CC, 0x00003E93, 0x00003C55, 0x00003A0F,
  0x000037C4, 0x00003574, 0x0000331E, 0x000030C2, 0x00002E62, 0x00002BFD, 0x00002993, 0x00002725,
  0x000024B3, 0x0000223D, 0x00001FC4, 0x00001D48, 0x00001AC8, 0x00001846, 0x000015C2, 0x0000133B,
  0x000010B2, 0x00000E27, 0x00000B9B, 0x0000090E, 0x00000680, 0x000003F1, 0x00000162, 0xFFFFFED3,
  0xFFFFFC44, 0xFFFFF9B5, 0xFFFFF727, 0xFFFFF49A, 0xFFFFF20E, 0xFFFFEF83, 0xFFFFECFA, 0xFFFFEA73,
  0xFFFFE7EE, 0xFFFFE56C, 0xFFFFE2EC, 0xFFFFE06F, 0xFFFFDDF6, 0xFFFFDB80, 0xFFFFD90E, 0xFFFFD69F,
  0xFFFFD435, 0xFFFFD1D0, 0xFFFFCF6F, 0xFFFFCD13, 0xFFFFCABD, 0xFFFFC86C, 0xFFFFC620, 0xFFFFC3DB,
  0xFFFFC19B, 0xFFFFBF62, 0xFFFFBD30, 0xFFFFBB04, 0xFFFFB8E0, 0xFFFFB6C3, 0xFFFFB4AD, 0xFFFFB29F,
  0xFFFFB099, 0xFFFFAE9B, 0xFFFFACA6, 0xFFFFAAB9, 0xFFFFA8D4, 0xFFFFA6F9, 0xFFFFA527, 0xFFFFA35E,
  0xFFFFA19E, 0xFFFF9FE8, 0xFFFF9E3C, 0xFFFF9C9A, 0xFFFF9B03, 0xFFFF9975, 0xFFFF97F2, 0xFFFF967A,
  0xFFFF950C, 0xFFFF93AA, 0xFFFF9252, 0xFFFF9106, 0xFFFF8FC5, 0xFFFF8E90, 0xFFFF8D66, 0xFFFF8C48,
  0xFFFF8B36, 0xFFFF8A30, 0xFFFF8936, 0xFFFF8848, 0xFFFF8766, 0xFFFF8691, 0xFFFF85C8, 0xFFFF850C,
  0xFFFF845C, 0xFFFF83B9, 0xFFFF8322, 0xFFFF8299, 0xFFFF821C, 0xFFFF81AC, 0xFFFF8149, 0xFFFF80F3,
  0xFFFF80AA, 0xFFFF806E, 0xFFFF803F, 0xFFFF801D, 0xFFFF8009, 0xFFFF8001, 0xFFFF8007, 0xFFFF8019,
  0xFFFF8039, 0xFFFF8066, 0xFFFF80A0, 0xFFFF80E6, 0xFFFF813A, 0xFFFF819B, 0xFFFF8209, 0xFFFF8284,
  0xFFFF830B, 0xFFFF83A0, 0xFFFF8441, 0xFFFF84EF, 0xFFFF85A9, 0xFFFF8670, 0xFFFF8743, 0xFFFF8823,
  0xFFFF890F, 0xFFFF8A07, 0xFFFF8B0C, 0xFFFF8C1C, 0xFFFF8D38, 0xFFFF8E60, 0xFFFF8F93, 0xFFFF90D2,
  0xFFFF921D, 0xFFFF9372, 0xFFFF94D3, 0xFFFF963F, 0xFFFF97B5, 0xFFFF9937, 0xFFFF9AC3, 0xFFFF9C59,
  0xFFFF9DF9, 0xFFFF9FA3, 0xFFFFA158, 0xFFFFA316, 0xFFFFA4DD, 0xFFFFA6AE, 0xFFFFA888, 0xFFFFAA6B,
  0xFFFFAC56, 0xFFFFAE4B, 0xFFFFB047, 0xFFFFB24C, 0xFFFFB459, 0xFFFFB66D, 0xFFFFB889, 0xFFFFBAAC,
  0xFFFFBCD7, 0xFFFFBF08, 0xFFFFC140, 0xFFFFC37E, 0xFFFFC5C3, 0xFFFFC80E, 0xFFFFCA5E, 0xFFFFCCB4,
  0xFFFFCF0F, 0xFFFFD16F, 0xFFFFD3D3, 0xFFFFD63D, 0xFFFFD8AA, 0xFFFFDB1C, 0xFFFFDD91, 0xFFFFE00A,
  0xFFFFE286, 0xFFFFE506, 0xFFFFE788, 0xFFFFEA0C, 0xFFFFEC93, 0xFFFFEF1B, 0xFFFFF1A6, 0xFFFFF432,
  0xFFFFF6BF, 0xFFFFF94D, 0xFFFFFBDC, 0xFFFFFE6B, 0x000000F9, 0x00000389, 0x00000617, 0x000008A6,
  0x00000B33, 0x00000DBF, 0x0000104A, 0x000012D3, 0x0000155A, 0x000017E0, 0x00001A62, 0x00001CE2,
  0x00001F5F, 0x000021D9, 0x0000244F, 0x000026C1, 0x00002930, 0x00002B9A, 0x00002E00, 0x00003061,
  0x000032BE, 0x00003515, 0x00003766, 0x000039B2, 0x00003BF8, 0x00003E38, 0x00004072, 0x000042A5,
  0x000044D1, 0x000046F6, 0x00004913, 0x00004B2A, 0x00004D38, 0x00004F3F, 0x0000513E, 0x00005334,
  0x00005521, 0x00005706, 0x000058E3, 0x00005AB6, 0x00005C7F, 0x00005E40, 0x00005FF6, 0x000061A3,
  0x00006346, 0x000064DE, 0x0000666D, 0x000067F0, 0x00006969, 0x00006AD8, 0x00006C3B, 0x00006D94,
  0x00006EE1, 0x00007022, 0x00007159, 0x00007283, 0x000073A2, 0x000074B5, 0x000075BC, 0x000076B8,
  0x000077A6, 0x00007889, 0x00007960, 0x00007A29, 0x00007AE7, 0x00007B98, 0x00007C3C, 0x00007CD3,
  0x00007D5E, 0x00007DDC, 0x00007E4D, 0x00007EB1, 0x00007F08, 0x00007F52, 0x00007F8F, 0x00007FBF,
  0x00007FE1, 0x00007FF7, 0x00008000]

def negSinValues : List (BitVec 32) := [
  0x00000000, 0xFFFFFD72, 0xFFFFFAE3, 0xFFFFF854, 0xFFFFF5C6, 0xFFFFF33A, 0xFFFFF0AE, 0xFFFFEE24,
  0xFFFFEB9C, 0xFFFFE917, 0xFFFFE693, 0xFFFFE412, 0xFFFFE194, 0xFFFFDF19, 0xFFFFDCA1, 0xFFFFDA2D,
  0xFFFFD7BD, 0xFFFFD551, 0xFFFFD2EA, 0xFFFFD087, 0xFFFFCE29, 0xFFFFCBD0, 0xFFFFC97C, 0xFFFFC72E,
  0xFFFFC4E5, 0xFFFFC2A3, 0xFFFFC067, 0xFFFFBE32, 0xFFFFBC03, 0xFFFFB9DB, 0xFFFFB7BB, 0xFFFFB5A2,
  0xFFFFB390, 0xFFFFB186, 0xFFFFAF85, 0xFFFFAD8B, 0xFFFFAB9A, 0xFFFFA9B2, 0xFFFFA7D2, 0xFFFFA5FC,
  0xFFFFA42F, 0xFFFFA26B, 0xFFFFA0B1, 0xFFFF9F00, 0xFFFF9D59, 0xFFFF9BBD, 0xFFFF9A2B, 0xFFFF98A3,
  0xFFFF9726, 0xFFFF95B3, 0xFFFF944C, 0xFFFF92EF, 0xFFFF919E, 0xFFFF9058, 0xFFFF8F1D, 0xFFFF8DEE,
  0xFFFF8CCB, 0xFFFF8BB3, 0xFFFF8AA7, 0xFFFF89A8, 0xFFFF88B4, 0xFFFF87CD, 0xFFFF86F2, 0xFFFF8623,
  0xFFFF8561, 0xFFFF84AB, 0xFFFF8402, 0xFFFF8366, 0xFFFF82D6, 0xFFFF8254, 0xFFFF81DE, 0xFFFF8175,
  0xFFFF8119, 0xFFFF80CA, 0xFFFF8088, 0xFFFF8053, 0xFFFF802B, 0xFFFF8011, 0xFFFF8003, 0xFFFF8002,
  0xFFFF800F, 0xFFFF8029, 0xFFFF804F, 0xFFFF8083, 0xFFFF80C4, 0xFFFF8112, 0xFFFF816D, 0xFFFF81D5,
  0xFFFF824A, 0xFFFF82CB, 0xFFFF835A, 0xFFFF83F5, 0xFFFF849D, 0xFFFF8552, 0xFFFF8613, 0xFFFF86E1,
  0xFFFF87BB, 0xFFFF88A1, 0xFFFF8994, 0xFFFF8A92, 0xFFFF8B9D, 0xFFFF8CB4, 0xFFFF8DD6, 0xFFFF8F04,
  0xFFFF903E, 0xFFFF9183, 0xFFFF92D4, 0xFFFF942F, 0xFFFF9596, 0xFFFF9708, 0xFFFF9884, 0xFFFF9A0B,
  0xFFFF9B9D, 0xFFFF9D38, 0xFFFF9EDE, 0xFFFFA08E, 0xFFFFA247, 0xFFFFA40A, 0xFFFFA5D7, 0xFFFFA7AD,
  0xFFFFA98B, 0xFFFFAB73, 0xFFFFAD63, 0xFFFFAF5C, 0xFFFFB15D, 0xFFFFB366, 0xFFFFB577, 0xFFFFB790,
  0xFFFFB9B0, 0xFFFFBBD7, 0xFFFFBE05, 0xFFFFC03A, 0xFFFFC275, 0xFFFFC4B7, 0xFFFFC6FF, 0xFFFFC94D,
  0xFFFFCBA0, 0xFFFFCDF8, 0xFFFFD056, 0xFFFFD2B9, 0xFFFFD520, 0xFFFFD78C, 0xFFFFD9FB, 0xFFFFDC6F,
  0xFFFFDEE6, 0xFFFFE161, 0xFFFFE3DF, 0xFFFFE660, 0xFFFFE8E3, 0xFFFFEB69, 0xFFFFEDF1, 0xFFFFF07A,
  0xFFFFF306, 0xFFFFF592, 0xFFFFF820, 0xFFFFFAAE, 0xFFFFFD3D, 0xFFFFFFCD, 0x0000025B, 0x000004EA,
  0x00000779, 0x00000A07, 0x00000C93, 0x00000F1F, 0x000011A9, 0x00001431, 0x000016B7, 0x0000193B,
  0x00001BBC, 0x00001E3A, 0x000020B5, 0x0000232D, 0x000025A2, 0x00002812, 0x00002A7E, 0x00002CE6,
  0x00002F4A, 0x000031A8, 0x00003402, 0x00003656, 0x000038A4, 0x00003AED, 0x00003D30, 0x00003F6C,
  0x000041A2, 0x000043D2, 0x000045FA, 0x0000481B, 0x00004A35, 0x00004C47, 0x00004E51, 0x00005054,
  0x0000524E, 0x0000543F, 0x00005628, 0x00005809, 0x000059E0, 0x00005BAE, 0x00005D72, 0x00005F2E,
  0x000060DF, 0x00006286, 0x00006424, 0x000065B7, 0x0000673F, 0x000068BD, 0x00006A31, 0x00006B99,
  0x00006CF6, 0x00006E49, 0x00006F90, 0x000070CB, 0x000071FB, 0x00007320, 0x00007438, 0x00007545,
  0x00007646, 0x0000773A, 0x00007822, 0x000078FE, 0x000079CE, 0x00007A91, 0x00007B48, 0x00007BF2,
  0x00007C8F, 0x00007D20, 0x00007DA3, 0x00007E1A, 0x00007E84, 0x00007EE1, 0x00007F31, 0x00007F74,
  0x00007FAA, 0x00007FD3, 0x00007FEF, 0x00007FFD, 0x00007FFF, 0x00007FF4, 0x00007FDB, 0x00007FB5,
  0x00007F82, 0x00007F42, 0x00007EF6, 0x00007E9C, 0x00007E35, 0x00007DC1, 0x00007D40, 0x00007CB3,
  0x00007C19, 0x00007B72, 0x00007ABE, 0x000079FE, 0x00007931, 0x00007858, 0x00007773, 0x00007681,
  0x00007583, 0x0000747A, 0x00007364, 0x00007242, 0x00007115, 0x00006FDC, 0x00006E98, 0x00006D48,
  0x00006BEE, 0x00006A88, 0x00006917, 0x0000679C, 0x00006615, 0x00006485, 0x000062EA, 0x00006145,
  0x00005F96, 0x00005DDD, 0x00005C1B, 0x00005A4F, 0x0000587A, 0x0000569C, 0x000054B5, 0x000052C6,
  0x000050CD, 0x00004ECD, 0x00004CC5, 0x00004AB4, 0x0000489C, 0x0000467D, 0x00004456, 0x00004229,
  0x00003FF4, 0x00003DB9, 0x00003B78, 0x00003931, 0x000036E4, 0x00003491, 0x00003239, 0x00002FDB,
  0x00002D79, 0x00002B12, 0x000028A7, 0x00002637, 0x000023C4, 0x0000214D, 0x00001ED3, 0x00001C55,
  0x000019D4, 0x00001751, 0x000014CC, 0x00001244, 0x00000FBA, 0x00000D2F, 0x00000AA3, 0x00000815,
  0x00000587, 0x000002F8, 0x00000069]

example : sinValues.length = 315 ∧ cosValues.length = 315 ∧ negSinValues.length = 315 := by
  decide +kernel

end Rom

end WireframeGpu
