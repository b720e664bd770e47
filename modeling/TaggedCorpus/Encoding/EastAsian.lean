import TaggedCorpus.Encoding.Chinese
import TaggedCorpus.Encoding.Iso2022
import TaggedCorpus.Encoding.Korean

/-!
The encodings of East Asia.
-/

namespace TaggedCorpus

/-- Encodings of Chinese, Japanese and Korean. -/
inductive EastAsian
  | gb2312
  | gbk
  | gb18030
  | hz
  | big5
  | big5Hkscs
  | codePage950
  | shiftJis
  | shiftJisX0213
  | shiftJis2004
  | codePage932
  | eucJp
  | eucJisX0213
  | eucJis2004
  | iso2022Jp
  | iso2022Jp1
  | iso2022Jp2
  | iso2022Jp3
  | iso2022Jp2004
  | iso2022JpExt
  | eucKr
  | codePage949
  | johab
  | iso2022Kr
  deriving DecidableEq

open MultiByte (doubleByte)

/-- What the bytes of a file are read as. -/
def EastAsian.decode : EastAsian → List UInt8 → Content
  | gb2312 => (MultiByte.codec "gb2312" (doubleByte Chinese.gb2312Pair?) ()).decode
  | gbk => (MultiByte.codec "gbk" (doubleByte Chinese.gbkPair?) ()).decode
  | gb18030 => (MultiByte.codec "gb18030" Chinese.gb18030 ()).decode
  | hz => (MultiByte.codec "hz" Chinese.hz false).decode
  | big5 => (MultiByte.codec "big5" (doubleByte Chinese.big5Pair?) ()).decode
  | big5Hkscs => (MultiByte.codec "big5hkscs" Chinese.big5Hkscs ()).decode
  | codePage950 => (MultiByte.codec "cp950" (doubleByte Chinese.codePage950Pair?) ()).decode
  | shiftJis => (MultiByte.codec "shift_jis" Japanese.shiftJis ()).decode
  | shiftJisX0213 => (MultiByte.codec "shift_jisx0213" (Japanese.shiftJisX0213 .first) ()).decode
  | shiftJis2004 => (MultiByte.codec "shift_jis_2004" (Japanese.shiftJisX0213 .second) ()).decode
  | codePage932 => (MultiByte.codec "cp932" Japanese.codePage932 ()).decode
  | eucJp => (MultiByte.codec "euc_jp" Japanese.eucJp ()).decode
  | eucJisX0213 => (MultiByte.codec "euc_jisx0213" (Japanese.eucJisX0213 .first) ()).decode
  | eucJis2004 => (MultiByte.codec "euc_jis_2004" (Japanese.eucJisX0213 .second) ()).decode
  | iso2022Jp => (Iso2022.codec .jp).decode
  | iso2022Jp1 => (Iso2022.codec .jp1).decode
  | iso2022Jp2 => (Iso2022.codec .jp2).decode
  | iso2022Jp3 => (Iso2022.codec .jp3).decode
  | iso2022Jp2004 => (Iso2022.codec .jp2004).decode
  | iso2022JpExt => (Iso2022.codec .jpExt).decode
  | eucKr => (MultiByte.codec "euc_kr" Korean.eucKr ()).decode
  | codePage949 => (MultiByte.codec "cp949" (doubleByte Korean.codePage949Pair?) ()).decode
  | johab => (MultiByte.codec "johab" (doubleByte Korean.johabPair?) ()).decode
  | iso2022Kr => (Iso2022.codec .kr).decode

end TaggedCorpus
