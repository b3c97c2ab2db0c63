import Phrasebook.Text.CharSet
import Phrasebook.Text.RangeSet

set_option autoImplicit false

/-! # Case folding

Characters that differ only in case. Most come in pairs; some stand together with two or three
others. -/

namespace Phrasebook.Text.Folding

/-- The pairs, as shifts of the lower code points. -/
def pairTable : CaseMap := CaseMap.ofNotation
  ["41-4A:61 4C-52:6C 54-5A:74 C0-C4:E0 C6-D6:E6 D8-DE:F8 DF:1E9E FF:178 100-12E/2:101",
   "132-136/2:133 139-147/2:13A 14A-176/2:14B 179-17D/2:17A 180:243 181:253 182:183 184:185",
   "186:254 187:188 189-18A:256 18B:18C 18E:1DD 18F:259 190:25B 191:192 193:260 194:263 195:1F6",
   "196:269 197:268 198:199 19A:23D 19B:A7DC 19C:26F 19D:272 19E:220 19F:275 1A0-1A4/2:1A1",
   "1A6:280 1A7:1A8 1A9:283 1AC:1AD 1AE:288 1AF:1B0 1B1-1B2:28A 1B3:1B4 1B5:1B6 1B7:292 1B8:1B9",
   "1BC:1BD 1BF:1F7 1CD-1DB/2:1CE 1DE-1EE/2:1DF 1F4:1F5 1F8-21E/2:1F9 222-232/2:223 23A:2C65",
   "23B:23C 23E:2C66 23F-240:2C7E 241:242 244:289 245:28C 246-24E/2:247 250:2C6F 251:2C6D",
   "252:2C70 25C:A7AB 261:A7AC 264:A7CB 265:A78D 266:A7AA 26A:A7AE 26B:2C62 26C:A7AD 271:2C6E",
   "27D:2C64 282:A7C5 287:A7B1 29D:A7B2 29E:A7B0 370:371 372:373 376:377 37B-37D:3FD 37F:3F3",
   "386:3AC 388-38A:3AD 38C:3CC 38E-38F:3CD 390:1FD3 391:3B1 393-394:3B3 396-397:3B6 39B:3BB",
   "39D-39F:3BD 3A4-3A5:3C4 3A7-3A8:3C7 3AA-3AB:3CA 3B0:1FE3 3CF:3D7 3D8-3EE/2:3D9 3F2:3F9",
   "3F7:3F8 3FA:3FB 400-40F:450 410-411:430 413:433 415-41D:435 41F-420:43F 423-429:443",
   "42B-42F:44B 460:461 464-480/2:465 48A-4BE/2:48B 4C0:4CF 4C1-4CD/2:4C2 4D0-52E/2:4D1",
   "531-556:561 10A0-10C5:2D00 10C7:2D27 10CD:2D2D 10D0-10FA:1C90 10FD-10FF:1CBD 13A0-13EF:AB70",
   "13F0-13F5:13F8 1C89:1C8A 1D79:A77D 1D7D:2C63 1D8E:A7C6 1E00-1E5E/2:1E01 1E62-1E94/2:1E63",
   "1EA0-1EFE/2:1EA1 1F00-1F07:1F08 1F10-1F15:1F18 1F20-1F27:1F28 1F30-1F37:1F38 1F40-1F45:1F48",
   "1F51-1F57/2:1F59 1F60-1F67:1F68 1F70-1F71:1FBA 1F72-1F75:1FC8 1F76-1F77:1FDA 1F78-1F79:1FF8",
   "1F7A-1F7B:1FEA 1F7C-1F7D:1FFA 1F80-1F87:1F88 1F90-1F97:1F98 1FA0-1FA7:1FA8 1FB0-1FB1:1FB8",
   "1FB3:1FBC 1FC3:1FCC 1FD0-1FD1:1FD8 1FE0-1FE1:1FE8 1FE5:1FEC 1FF3:1FFC 2132:214E",
   "2160-216F:2170 2183:2184 24B6-24CF:24D0 2C00-2C2F:2C30 2C60:2C61 2C67-2C6B/2:2C68 2C72:2C73",
   "2C75:2C76 2C80-2CE2/2:2C81 2CEB:2CEC 2CED:2CEE 2CF2:2CF3 A640-A648/2:A641 A64C-A66C/2:A64D",
   "A680-A69A/2:A681 A722-A72E/2:A723 A732-A76E/2:A733 A779:A77A A77B:A77C A77E-A786/2:A77F",
   "A78B:A78C A790:A791 A792:A793 A794:A7C4 A796-A7A8/2:A797 A7B3:AB53 A7B4-A7C2/2:A7B5",
   "A7C7:A7C8 A7C9:A7CA A7CC:A7CD A7D0:A7D1 A7D6-A7DA/2:A7D7 A7F5:A7F6 FB05:FB06 FF21-FF3A:FF41",
   "10400-10427:10428 104B0-104D3:104D8 10570-1057A:10597 1057C-1058A:105A3 1058C-10592:105B3",
   "10594-10595:105BB 10C80-10CB2:10CC0 10D50-10D65:10D70 118A0-118BF:118C0 16E40-16E5F:16E60",
   "1E900-1E921:1E922"]

/-- The groups of more than two characters. -/
def groups : List (List Nat) :=
  [[0x4B, 0x6B, 0x212A], [0x53, 0x73, 0x17F], [0xB5, 0x39C, 0x3BC], [0xC5, 0xE5, 0x212B],
  [0x1C4, 0x1C5, 0x1C6], [0x1C7, 0x1C8, 0x1C9], [0x1CA, 0x1CB, 0x1CC], [0x1F1, 0x1F2, 0x1F3],
  [0x345, 0x399, 0x3B9, 0x1FBE], [0x392, 0x3B2, 0x3D0], [0x395, 0x3B5, 0x3F5], [0x398, 0x3B8,
  0x3D1, 0x3F4], [0x39A, 0x3BA, 0x3F0], [0x3A0, 0x3C0, 0x3D6], [0x3A1, 0x3C1, 0x3F1], [0x3A3,
  0x3C2, 0x3C3], [0x3A6, 0x3C6, 0x3D5], [0x3A9, 0x3C9, 0x2126], [0x412, 0x432, 0x1C80],
  [0x414, 0x434, 0x1C81], [0x41E, 0x43E, 0x1C82], [0x421, 0x441, 0x1C83], [0x422, 0x442,
  0x1C84, 0x1C85], [0x42A, 0x44A, 0x1C86], [0x462, 0x463, 0x1C87], [0x1C88, 0xA64A, 0xA64B],
  [0x1E60, 0x1E61, 0x1E9B]]

/-- The code points of a span. -/
def members (s : Span) : List Nat :=
  (List.range ((s.last - s.first) / s.step + 1)).map fun k => s.first + k * s.step

/-- The classes of characters that differ only in case. -/
def classes : List (List Nat) :=
  groups ++ pairTable.shifts.flatMap fun (s, target) =>
    (members s).map fun n => [n, target + (n - s.first)]

/-- A set with all characters that differ only in case from one of it. -/
def close (s : RangeSet) : RangeSet :=
  s.union (.ofRanges
    ((classes.filter fun c => c.any s.containsCode).flatten.map fun n => (n, n)))

/-- The letters of ASCII that differ only in case from one of a set are added to it. -/
def closeAscii (s : RangeSet) : RangeSet :=
  let upper := s.inter (.range 0x41 0x5A)
  let lower := s.inter (.range 0x61 0x7A)
  s.union (.ofRanges
    (upper.ranges.map (fun (a, b) => (a + 32, b + 32)) ++
      lower.ranges.map (fun (a, b) => (a - 32, b - 32))))

end Phrasebook.Text.Folding
