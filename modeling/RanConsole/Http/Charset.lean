import RanConsole.Text.Blank
import RanConsole.Text.Cut
import RanConsole.Text.OctetTables
import RanConsole.Text.Utf8
import RanConsole.Text.Wide

/-!
# Character sets

How the body of a response is read as a text. The content type may name the character set; without a name that is known it is UTF-8.
Some names are known without a table here to read by, such as those of character sets with several octets for a character.
-/

namespace RanConsole.Http

/-- A character set. -/
inductive Charset where
  | utf8
  /-- UTF-8 that a mark may start. -/
  | utf8Marked
  | latin1
  | ascii
  | utf16 (order : Text.Wide.Order)
  | utf32 (order : Text.Wide.Order)
  /-- UTF-16 that a mark starts. -/
  | utf16Marked
  /-- UTF-32 that a mark starts. -/
  | utf32Marked
  | table (t : Text.OctetTable)
  /-- One that is known by its name only. -/
  | foreign (name : String)
  deriving DecidableEq, Repr

namespace Charset

/-- The character sets that are known without a table, each with its name and what else it is called. -/
def plainNames : List (String × List String × Charset) := [
  ("ascii", ["646", "ansi_x3.4_1968", "ansi_x3.4_1986", "ansi_x3_4_1968", "cp367", "csascii", "ibm367", "iso646_us",
    "iso_646.irv_1991", "iso_ir_6", "us", "us_ascii"], .ascii),
  ("latin_1", ["8859", "cp819", "csisolatin1", "ibm819", "iso8859", "iso8859_1", "iso_8859_1", "iso_8859_1_1987",
    "iso_ir_100", "l1", "latin", "latin1"], .latin1),
  ("utf_8_sig", [], .utf8Marked),
  ("utf_16", ["u16", "utf16"], .utf16Marked),
  ("utf_16_le", ["unicodelittleunmarked", "utf_16le"], .utf16 .lowest),
  ("utf_16_be", ["unicodebigunmarked", "utf_16be"], .utf16 .highest),
  ("utf_32", ["u32", "utf32"], .utf32Marked),
  ("utf_32_le", ["utf_32le"], .utf32 .lowest),
  ("utf_32_be", ["utf_32be"], .utf32 .highest)]

/-- The character sets that are known by their names only, and what else they are called. -/
def foreignNames : List (String × List String) := [
  ("base64_codec", ["base64", "base_64"]), ("big5", ["big5_tw", "csbig5", "x_mac_trad_chinese"]),
  ("big5hkscs", ["big5_hkscs", "hkscs"]), ("bz2_codec", ["bz2"]), ("charmap", []),
  ("cp037", ["037", "csibm037", "ebcdic_cp_ca", "ebcdic_cp_nl", "ebcdic_cp_us", "ebcdic_cp_wt", "ibm037", "ibm039"]),
  ("cp1006", []), ("cp1026", ["1026", "csibm1026", "ibm1026"]), ("cp1125", ["1125", "cp866u", "ibm1125", "ruscii"]),
  ("cp1140", ["1140", "ibm1140"]), ("cp273", ["273", "csibm273", "ibm273"]),
  ("cp424", ["424", "csibm424", "ebcdic_cp_he", "ibm424"]),
  ("cp500", ["500", "csibm500", "ebcdic_cp_be", "ebcdic_cp_ch", "ibm500"]), ("cp720", []), ("cp737", []),
  ("cp775", ["775", "cspc775baltic", "ibm775"]), ("cp852", ["852", "cspcp852", "ibm852"]),
  ("cp855", ["855", "csibm855", "ibm855"]), ("cp856", []), ("cp857", ["857", "csibm857", "ibm857"]),
  ("cp858", ["858", "csibm858", "ibm858"]), ("cp860", ["860", "csibm860", "ibm860"]),
  ("cp861", ["861", "cp_is", "csibm861", "ibm861"]), ("cp862", ["862", "cspc862latinhebrew", "ibm862"]),
  ("cp863", ["863", "csibm863", "ibm863"]), ("cp864", ["864", "csibm864", "ibm864"]), ("cp865", ["865", "csibm865", "ibm865"]),
  ("cp869", ["869", "cp_gr", "csibm869", "ibm869"]), ("cp875", []), ("cp932", ["932", "ms932", "ms_kanji", "mskanji"]),
  ("cp949", ["949", "ms949", "uhc"]), ("cp950", ["950", "ms950"]), ("euc_jis_2004", ["euc_jis2004", "eucjis2004", "jisx0213"]),
  ("euc_jisx0213", ["eucjisx0213"]), ("euc_jp", ["eucjp", "u_jis", "ujis"]),
  ("euc_kr", ["euckr", "korean", "ks_c_5601", "ks_c_5601_1987", "ks_x_1001", "ksc5601", "ksx1001", "x_mac_korean"]),
  ("gb18030", ["gb18030_2000"]),
  ("gb2312",
    ["chinese", "csiso58gb231280", "euc_cn", "euccn", "eucgb2312_cn", "gb2312_1980", "gb2312_80", "iso_ir_58", "x_mac_simp_chinese"]),
  ("gbk", ["936", "cp936", "ms936"]), ("hex_codec", ["hex"]), ("hp_roman8", ["cp1051", "ibm1051", "r8", "roman8"]),
  ("hz", ["hz_gb", "hz_gb_2312", "hzgb"]), ("idna", []), ("iso2022_jp", ["csiso2022jp", "iso2022jp", "iso_2022_jp"]),
  ("iso2022_jp_1", ["iso2022jp_1", "iso_2022_jp_1"]), ("iso2022_jp_2", ["iso2022jp_2", "iso_2022_jp_2"]),
  ("iso2022_jp_2004", ["iso2022jp_2004", "iso_2022_jp_2004"]), ("iso2022_jp_3", ["iso2022jp_3", "iso_2022_jp_3"]),
  ("iso2022_jp_ext", ["iso2022jp_ext", "iso_2022_jp_ext"]), ("iso2022_kr", ["csiso2022kr", "iso2022kr", "iso_2022_kr"]),
  ("johab", ["cp1361", "ms1361"]), ("koi8_t", []), ("kz1048", ["kz_1048", "rk1048", "strk1048_2002"]), ("mac_arabic", []),
  ("mac_croatian", []), ("mac_cyrillic", ["maccyrillic"]), ("mac_farsi", []), ("mac_greek", ["macgreek"]),
  ("mac_iceland", ["maciceland"]), ("mac_latin2", ["mac_centeuro", "maccentraleurope", "maclatin2"]), ("mac_romanian", []),
  ("mac_turkish", ["macturkish"]), ("palmos", []), ("ptcp154", ["cp154", "csptcp154", "cyrillic_asian", "pt154"]),
  ("punycode", []), ("quopri_codec", ["quopri", "quoted_printable", "quotedprintable"]), ("raw_unicode_escape", []),
  ("rot_13", ["rot13"]), ("shift_jis", ["csshiftjis", "s_jis", "shiftjis", "sjis", "x_mac_japanese"]),
  ("shift_jis_2004", ["s_jis_2004", "shiftjis2004", "sjis_2004"]),
  ("shift_jisx0213", ["s_jisx0213", "shiftjisx0213", "sjisx0213"]), ("undefined", []), ("unicode_escape", []),
  ("utf_7", ["u7", "unicode_1_1_utf_7", "utf7"]), ("uu_codec", ["uu"]), ("zlib_codec", ["zip", "zlib"])]

/-- All character sets besides UTF-8 that are known by a name. -/
def names : List (String × List String × Charset) :=
  plainNames ++ (Text.octetTables.map fun t => (t.name, t.others, .table t)) ++
    foreignNames.map fun (name, others) => (name, others, .foreign name)

/-- A name in its usual spelling: letters, digits and dots, and one `_` for whatever is between them. -/
def usualName (s : List Char) : List Char :=
  let isPart (c : Char) : Bool := c.isAlphanum || c = '.'
  Text.joinWith ['_'] ((s.splitOnP (!isPart ·)).filter (!·.isEmpty))

/-- The character set that is called so. -/
def ofName? (s : List Char) : Option Charset :=
  let name := String.ofList ((usualName s).map Char.toLower)
  let undotted := String.ofList (Text.replaceChar '.' '_' name.toList)
  (names.find? fun (known, others, _) => others.contains name || others.contains undotted || known = name).map (·.2.2)

/-- The parameters of a content type, which semicolons part. A semicolon between quotes parts nothing. -/
def parameters (quotes : Bool) (previous : Option Char) : List Char → List (List Char)
  | [] => [[]]
  | c :: s =>
    let quotes := if c = '"' && previous != some '\\' then !quotes else quotes
    if c = ';' && !quotes then [] :: parameters false none s
    else
      match parameters quotes (some c) s with
      | first :: rest => (c :: first) :: rest
      | [] => [[c]]

/-- A value without the quotes or angle brackets around it. -/
def unquotedValue (s : List Char) : List Char :=
  let inside := (s.drop 1).dropLast
  if 2 ≤ s.length && s.head? == some '"' && s.getLast? == some '"' then
    let unescape : List Char → List Char := fun t =>
      Text.joinWith ['"'] ((String.ofList t).splitOn "\\\"" |>.map String.toList)
    unescape (Text.joinWith ['\\'] ((String.ofList inside).splitOn "\\\\" |>.map String.toList))
  else if 2 ≤ s.length && s.head? == some '<' && s.getLast? == some '>' then inside
  else s

/-- The name of a character set in a content type. -/
def nameIn? (contentType : List Char) : Option (List Char) :=
  (parameters false none contentType).findSome? fun p =>
    match Text.cut? ['='] p with
    | some (key, value) =>
      if (Text.trim key).map Char.toLower = "charset".toList then some (unquotedValue (Text.trim value)) else none
    | none => none

/-- The character set that a content type names; UTF-8 if it names none that is known. -/
def ofContentType (contentType : Option String) : Charset :=
  ((contentType.bind fun t => nameIn? t.toList).bind ofName?).getD .utf8

/-- The characters of octets, none where they make no character. There are none at all if a mark is missing that has to be there, or if
the character set has no table here. -/
def characters? : Charset → List Nat → Option (List (Option Char))
  | .utf8, octets => some (Text.Utf8.decodeFrom none octets)
  | .utf8Marked, octets =>
    some (Text.Utf8.decodeFrom none (if [0xEF, 0xBB, 0xBF].isPrefixOf octets then octets.drop 3 else octets))
  | .latin1, octets => some (octets.map fun b => some (Char.ofNat b))
  | .ascii, octets => some (octets.map fun b => if b < 0x80 then some (Char.ofNat b) else none)
  | .utf16 order, octets => some (Text.Wide.decode16 order octets)
  | .utf32 order, octets => some (Text.Wide.decode32 order octets)
  | .utf16Marked, octets =>
    match Text.Wide.marked16? octets with
    | some (order, s) => some (Text.Wide.decode16 order s)
    | none => if octets.length < 2 then some (octets.map fun _ => none) else none
  | .utf32Marked, octets =>
    match Text.Wide.marked32? octets with
    | some (order, s) => some (Text.Wide.decode32 order s)
    | none => if octets.length < 4 then some [none] else none
  | .table t, octets => some (octets.map t.character?)
  | .foreign _, _ => none

/-- The text of octets, with the replacement character where they make no character. No octets are no text in any character set. -/
def decode? (charset : Charset) (octets : List Nat) : Option (List Char) :=
  if octets.isEmpty then some []
  else (charset.characters? octets).map fun cs => cs.map (·.getD '\uFFFD')

/-- The character set of a JSON text, as its first octets show it: by a mark, or by where they are zero. -/
def ofJson (octets : List Nat) : Charset :=
  if (Text.Wide.marked32? octets).isSome then .utf32Marked
  else if (Text.Wide.marked16? octets).isSome then .utf16Marked
  else
    match octets with
    | 0 :: 0 :: _ :: _ :: _ => .utf32 .highest
    | 0 :: _ :: _ :: _ :: _ => .utf16 .highest
    | _ :: 0 :: 0 :: 0 :: _ => .utf32 .lowest
    | _ :: 0 :: _ :: _ :: _ => .utf16 .lowest
    | [0, _] => .utf16 .highest
    | [_, 0] => .utf16 .lowest
    | _ => .utf8Marked

/-- The JSON text of octets, if every octet is part of a character. -/
def jsonText? (octets : List Nat) : Option (List Char) :=
  ((ofJson octets).characters? octets).bind fun cs => cs.mapM id

end Charset

end RanConsole.Http
