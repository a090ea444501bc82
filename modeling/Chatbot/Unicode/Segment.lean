import Chatbot.Unicode.Packed

/-!
# Ages and segmentation classes

The version of Unicode that assigned each code point, and its classes for the breaking of
text into grapheme clusters, words and sentences (Unicode character database, version 16.0). Each table is a partition
of all code points into runs, packed as text: each run is its length less one and the number
of its value in the list of values, both in base 36; the ages after the last version are the
unassigned code points.
-/

namespace Chatbot.Unicode

/-- The versions, oldest first, each with all its names. -/
def ageNames : Array (String × List String) := #[
  ("V1_1", ["1.1", "V1_1"]),
  ("V2_0", ["2.0", "V2_0"]),
  ("V2_1", ["2.1", "V2_1"]),
  ("V3_0", ["3.0", "V3_0"]),
  ("V3_1", ["3.1", "V3_1"]),
  ("V3_2", ["3.2", "V3_2"]),
  ("V4_0", ["4.0", "V4_0"]),
  ("V4_1", ["4.1", "V4_1"]),
  ("V5_0", ["5.0", "V5_0"]),
  ("V5_1", ["5.1", "V5_1"]),
  ("V5_2", ["5.2", "V5_2"]),
  ("V6_0", ["6.0", "V6_0"]),
  ("V6_1", ["6.1", "V6_1"]),
  ("V6_2", ["6.2", "V6_2"]),
  ("V6_3", ["6.3", "V6_3"]),
  ("V7_0", ["7.0", "V7_0"]),
  ("V8_0", ["8.0", "V8_0"]),
  ("V9_0", ["9.0", "V9_0"]),
  ("V10_0", ["10.0", "V10_0"]),
  ("V11_0", ["11.0", "V11_0"]),
  ("V12_0", ["12.0", "V12_0"]),
  ("V12_1", ["12.1", "V12_1"]),
  ("V13_0", ["13.0", "V13_0"]),
  ("V14_0", ["14.0", "V14_0"]),
  ("V15_0", ["15.0", "V15_0"]),
  ("V15_1", ["15.1", "V15_1"]),
  ("V16_0", ["16.0", "V16_0"])]

/-- The grapheme cluster break classes, each with all its names. -/
def graphemeBreakNames : Array (String × List String) := #[
  ("Control", ["CN", "Control"]),
  ("CR", ["CR", "CR"]),
  ("E_Base", ["EB", "E_Base"]),
  ("E_Base_GAZ", ["EBG", "E_Base_GAZ"]),
  ("E_Modifier", ["EM", "E_Modifier"]),
  ("Extend", ["EX", "Extend"]),
  ("Glue_After_Zwj", ["GAZ", "Glue_After_Zwj"]),
  ("L", ["L", "L"]),
  ("LF", ["LF", "LF"]),
  ("LV", ["LV", "LV"]),
  ("LVT", ["LVT", "LVT"]),
  ("Prepend", ["PP", "Prepend"]),
  ("Regional_Indicator", ["RI", "Regional_Indicator"]),
  ("SpacingMark", ["SM", "SpacingMark"]),
  ("T", ["T", "T"]),
  ("V", ["V", "V"]),
  ("Other", ["XX", "Other"]),
  ("ZWJ", ["ZWJ", "ZWJ"])]

/-- The word break classes, each with all its names. -/
def wordBreakNames : Array (String × List String) := #[
  ("CR", ["CR", "CR"]),
  ("Double_Quote", ["DQ", "Double_Quote"]),
  ("E_Base", ["EB", "E_Base"]),
  ("E_Base_GAZ", ["EBG", "E_Base_GAZ"]),
  ("E_Modifier", ["EM", "E_Modifier"]),
  ("ExtendNumLet", ["EX", "ExtendNumLet"]),
  ("Extend", ["Extend", "Extend"]),
  ("Format", ["FO", "Format"]),
  ("Glue_After_Zwj", ["GAZ", "Glue_After_Zwj"]),
  ("Hebrew_Letter", ["HL", "Hebrew_Letter"]),
  ("Katakana", ["KA", "Katakana"]),
  ("ALetter", ["LE", "ALetter"]),
  ("LF", ["LF", "LF"]),
  ("MidNumLet", ["MB", "MidNumLet"]),
  ("MidLetter", ["ML", "MidLetter"]),
  ("MidNum", ["MN", "MidNum"]),
  ("Newline", ["NL", "Newline"]),
  ("Numeric", ["NU", "Numeric"]),
  ("Regional_Indicator", ["RI", "Regional_Indicator"]),
  ("Single_Quote", ["SQ", "Single_Quote"]),
  ("WSegSpace", ["WSegSpace", "WSegSpace"]),
  ("Other", ["XX", "Other"]),
  ("ZWJ", ["ZWJ", "ZWJ"])]

/-- The sentence break classes, each with all its names. -/
def sentenceBreakNames : Array (String × List String) := #[
  ("ATerm", ["AT", "ATerm"]),
  ("Close", ["CL", "Close"]),
  ("CR", ["CR", "CR"]),
  ("Extend", ["EX", "Extend"]),
  ("Format", ["FO", "Format"]),
  ("OLetter", ["LE", "OLetter"]),
  ("LF", ["LF", "LF"]),
  ("Lower", ["LO", "Lower"]),
  ("Numeric", ["NU", "Numeric"]),
  ("SContinue", ["SC", "SContinue"]),
  ("Sep", ["SE", "Sep"]),
  ("Sp", ["SP", "Sp"]),
  ("STerm", ["ST", "STerm"]),
  ("Upper", ["UP", "Upper"]),
  ("Other", ["XX", "Other"])]

/-- The runs of ages, packed. -/
def packedAges : String :=
  "dx.0,3.3,t.0,7.3,0.5,0.6,h.3,2.6,a.7,d.8,2g.0,4.3,1.6,1a.0,0.3,9.0,4.3,g.6,1x.0,8.3,0.5,7.6,4.7," ++
  "2.6,1.0,0.3,c.5,3.9,1.0,1.9,1.r,0.0,2.8,0.0,0.f,3.r,6.0,0.r,0.0,0.r,j.0,0.r,17.0,0.9,6.0,0.3,1.5" ++
  ",0.0,0.3,0.0,0.3,0.0,0.3,0.0,0.3,h.0,1.4,0.5,4.6,3.7,0.3,b.0,0.3,1t.0,0.3,b.0,0.3,14.0,0.9,1.3,1" ++
  ".5,3.3,1g.0,1.5,1.0,1.5,1.0,1.5,0.8,r.0,1.3,7.0,1.7,1.0,5.8,f.5,3.8,f.9,1.a,1.b,7.f,0.r,11.0,1.r" ++
  ",6.0,0.j,12.0,0.j,0.0,0.3,1.r,1.f,0.c,0.r,g.1,0.7,c.1,9.0,0.8,8.0,0.1,2.7,7.r,q.0,3.r,0.j,4.0,a." ++
  "r,3.6,0.c,0.f,4.9,0.7,0.0,8.6,4.9,0.0,0.e,0.n,0.7,0.0,0.b,p.0,4.9,i.0,2.3,2.6,5.7,0.b,d.0,1.5,1z" ++
  ".0,1.3,4.0,0.3,e.0,0.3,t.0,1.6,9.0,4.3,0.6,d.3,0.r,t.3,2.6,q.3,1.r,2.6,t.7,h.9,1c.3,0.5,d.r,1m.8" ++
  ",1.r,2.j,19.a,1.r,e.a,0.r,r.b,1.r,0.b,0.r,a.i,4.r,u.n,0.r,1.n,4.r,0.q,7.n,0.c,0.f,a.c,5.f,1.g,0." ++
  "n,7.h,9.m,a.n,0.j,e.h,0.g,q.c,0.f,0.a,2.0,0.6,1g.0,1.b,h.0,0.a,0.b,4.0,0.a,1.b,o.0,1.9,4.b,0.f,1" ++
  ".a,1.8,0.7,1.8,0.f,2.0,0.r,7.0,1.r,1.0,1.r,l.0,0.r,6.0,0.r,0.0,2.r,3.0,1.r,0.0,0.6,6.0,1.r,1.0,1" ++
  ".r,2.0,0.7,7.r,0.0,3.r,1.0,0.r,4.0,1.r,k.0,0.a,1.i,0.j,1.r,0.6,0.0,0.6,0.r,5.0,3.r,1.0,1.r,l.0,0" ++
  ".r,6.0,0.r,1.0,0.r,1.0,0.r,1.0,1.r,0.0,0.r,4.0,3.r,1.0,1.r,2.0,2.r,0.9,6.r,3.0,0.r,0.0,6.r,e.0,0" ++
  ".9,0.j,9.r,2.0,0.r,6.0,0.6,0.0,0.r,2.0,0.r,l.0,0.r,6.0,0.r,1.0,0.r,4.0,1.r,9.0,0.r,2.0,0.r,2.0,1" ++
  ".r,0.0,e.r,0.0,2.6,1.r,9.0,0.c,0.6,6.r,0.g,5.i,0.r,2.0,0.r,7.0,1.r,1.0,1.r,l.0,0.r,6.0,0.r,1.0,0" ++
  ".r,0.6,3.0,1.r,7.0,0.9,1.r,1.0,1.r,2.0,6.r,0.m,1.0,3.r,1.0,0.r,2.0,1.9,1.r,a.0,0.6,5.b,9.r,1.0,0" ++
  ".r,5.0,2.r,2.0,0.r,3.0,2.r,1.0,0.r,0.0,0.r,1.0,2.r,1.0,2.r,2.0,2.r,7.0,0.7,2.0,3.r,4.0,2.r,2.0,0" ++
  ".r,3.0,1.r,0.9,5.r,0.0,d.r,0.7,b.0,7.6,4.r,0.f,2.0,0.j,7.0,0.r,2.0,0.r,m.0,0.r,9.0,0.f,4.0,1.r,0" ++
  ".n,0.9,6.0,0.r,2.0,0.r,3.0,6.r,1.0,0.r,1.9,0.g,1.r,0.n,1.r,1.0,1.9,1.r,9.0,6.r,0.k,7.9,0.h,0.f,1" ++
  ".0,0.j,7.0,0.r,2.0,0.r,m.0,0.r,9.0,0.r,4.0,1.r,1.6,6.0,0.r,2.0,0.r,3.0,6.r,1.0,5.r,0.n,0.0,0.r,1" ++
  ".0,1.8,1.r,9.0,0.r,1.8,0.o,b.r,0.i,0.f,1.0,0.m,7.0,0.r,2.0,0.r,m.0,0.b,f.0,0.b,1.i,0.9,5.0,0.9,0" ++
  ".r,2.0,0.r,3.0,0.b,0.h,3.r,2.h,0.0,6.h,0.g,1.0,1.9,1.r,9.0,5.9,2.h,6.9,0.r,0.m,1.3,0.r,h.3,2.r,n" ++
  ".3,0.r,8.3,0.r,0.3,1.r,6.3,2.r,0.3,3.r,5.3,0.r,0.3,0.r,7.3,5.r,9.f,1.r,2.3,b.r,1l.0,3.r,s.0,10.r" ++
  ",1.0,0.r,0.0,0.r,0.k,1.0,0.k,0.0,0.r,0.k,0.0,5.k,3.0,0.k,6.0,0.k,2.0,0.r,0.0,0.r,0.0,1.k,1.0,0.k" ++
  ",c.0,0.k,2.0,1.r,4.0,0.r,0.0,0.r,5.0,0.o,0.r,9.0,1.r,1.0,1.c,v.r,1z.1,0.r,w.1,0.3,1.9,3.r,q.1,3." ++
  "b,5.1,0.3,0.1,0.r,k.1,2.3,6.1,0.3,0.1,2.3,0.r,e.3,0.r,0.9,0.3,1.7,2.9,3.a,1.b,10.r,x.3,0.9,4.3,0" ++
  ".9,1.3,0.9,6.3,2.9,3.3,5.9,p.3,1r.9,3.a,1.9,11.0,0.r,0.c,4.r,0.c,1.r,12.0,1.5,1.7,0.0,0.7,2.c,2h" ++
  ".0,4.a,1v.0,4.a,29.0,5.a,6.3,0.7,1q.3,0.7,0.3,0.r,3.3,1.r,6.3,0.r,0.3,0.r,3.3,1.r,12.3,0.7,0.3,0" ++
  ".r,3.3,1.r,u.3,0.7,0.3,0.r,3.3,1.r,6.3,0.r,0.3,0.r,3.3,1.r,6.3,0.7,6.3,0.r,m.3,0.7,u.3,0.7,0.3,0" ++
  ".r,3.3,1.r,6.3,0.7,12.3,0.7,i.3,1.r,1.b,1.7,r.3,2.r,p.7,5.r,2c.3,0.g,1.r,5.g,1.r,0.a,hh.3,8.a,s." ++
  "3,2.r,28.3,7.f,6.r,c.5,0.n,6.5,0.n,8.r,0.n,m.5,8.r,j.5,b.r,c.5,0.r,2.5,0.r,1.5,b.r,2k.3,0.6,1.r," ++
  "9.3,5.r,9.6,5.r,e.3,0.n,9.3,5.r,2f.3,0.j,6.r,15.3,0.9,4.r,1x.a,9.r,s.6,1.f,0.r,b.6,3.r,b.6,3.r,0" ++
  ".6,2.r,15.6,1.r,4.6,a.r,15.7,1.a,3.r,p.7,5.r,9.7,0.a,2.r,1.7,v.6,r.7,1.r,1.7,1q.a,0.r,s.a,1.r,a." ++
  "a,5.r,9.a,5.r,d.a,1.r,e.f,1.m,d.n,1c.r,23.8,0.n,0.r,1.q,18.8,1.n,0.q,16.9,2.c,b.9,5.c,1f.b,7.r,3" ++
  ".b,1j.9,2.r,e.9,2.r,1e.9,8.h,1.q,4.r,16.j,1.r,2.j,7.c,7.r,y.a,3.c,0.i,1.f,0.k,4.r,2z.6,2f.7,6.8," ++
  "r.9,e.f,3.i,0.n,0.h,0.b,0.a,1.8,4a.0,0.1,3.9,2h.0,5.9,l.0,1.r,5.0,1.r,11.0,1.r,5.0,1.r,7.0,0.r,0" ++
  ".0,0.r,0.0,0.r,0.0,0.r,u.0,1.r,1g.0,0.r,e.0,0.r,d.0,1.r,5.0,0.r,i.0,1.r,2.0,0.r,8.0,0.r,1a.0,0.3" ++
  ",m.0,0.5,5.3,4.5,1.6,1.7,0.5,6.7,4.5,0.9,0.r,3.e,6.0,0.5,1.r,q.0,0.r,4.7,7.b,2.r,a.0,0.1,0.2,2.3" ++
  ",1.5,3.7,2.a,0.b,0.d,2.f,0.g,0.i,0.n,e.r,h.0,1.3,6.5,0.7,3.8,0.9,e.r,1k.0,1.3,0.6,0.7,e.5,0.7,1." ++
  "8,0.9,2.a,1b.0,0.3,0.8,3.9,0.a,1.g,3.r,2i.0,8.3,b.5,6p.0,d.5,0.0,0.3,3c.0,0.3,0.5,t.3,1f.5,1.6,a" ++
  ".7,b.8,0.a,a.b,6.f,3.h,0.i,10.0,1.3,2.q,l.r,a.0,k.r,3u.0,j.5,0.6,45.0,9.5,27.0,7.3,7.5,j.0,1.6,1" ++
  ".5,0.7,0.3,2d.0,1.3,b.5,1.7,9.5,7.6,a.7,0.9,1.a,1.6,f.7,0.8,9.9,2.a,3.9,9.a,0.b,i.a,0.b,0.a,3.b," ++
  "n.a,0.f,3.0,0.b,3.0,1.b,r.0,0.b,y.0,0.b,0.0,0.b,3.0,2.b,0.0,0.a,6.0,1.b,6.0,d.5,u.0,2.b,n.0,0.b," ++
  "d.0,0.b,6.7,3.8,0.c,0.9,0.c,1.b,r.5,3.9,f.5,73.3,e7.5,d.6,5.7,6.8,4.9,3.8,14.9,2.f,4.9,4.a,p.f,1" ++
  ".r,v.f,0.r,0.m,x.f,2.j,b.f,0.k,7.f,0.i,o.j,3.g,e.j,0.k,1a.7,0.n,1a.7,0.n,c.8,2.9,0.a,2.9,3.8,5.9" ++
  ",1.a,2y.7,6.a,1.c,4.r,18.7,0.r,0.c,4.r,0.c,1.r,1h.7,1.c,6.r,0.7,0.b,d.r,0.b,m.7,8.r,6.7,0.r,6.7," ++
  "0.r,6.7,0.r,6.7,0.r,6.7,0.r,6.7,0.r,6.7,0.r,6.7,0.r,v.9,n.7,3.9,1.7,i.9,0.a,9.c,6.f,1.h,4.i,4.j," ++
  "0.k,2.m,a.n,x.r,p.3,0.r,2g.3,b.r,5x.3,p.r,b.3,3.p,1j.0,2.3,2.5,0.3,0.0,0.r,2b.0,1.5,1.r,5.0,1.5," ++
  "2l.0,0.5,4.r,13.0,0.9,0.i,0.j,0.r,2l.0,0.r,f.0,n.3,2.b,4.m,f.7,j.9,1.q,8.r,0.p,f.5,s.0,1.6,0.r,z" ++
  ".0,b.a,0.6,e.5,r.0,1.6,0.7,1d.0,e.5,b.0,3.6,1a.0,0.l,3a.0,3.6,2q.0,1.6,u.0,0.6,52t.3,9.m,1r.6,g4" ++
  "l.0,l.7,7.9,7.a,0.c,8.g,k.i,4.j,c.m,2.n,wc.3,2.r,h.3,1.5,f.3,0.5,b.3,0.5,2.3,0.5,0.3,8.r,1b.a,8b" ++
  ".9,j.r,v.9,1.b,h.9,7.c,r.9,5.f,0.g,0.c,2f.a,7.r,m.7,3.8,4.9,1.8,2y.9,1.b,0.g,1.b,1.c,b.f,9.b,0.c" ++
  ",2.f,0.h,0.j,1.f,5.g,1.j,5.k,1.n,4.k,3.m,2.q,1.r,1.n,0.r,0.n,0.r,4.n,2.q,k.r,2.n,1.m,0.f,1.c,0.b" ++
  ",4.9,17.7,0.m,2.r,9.a,5.r,1j.8,7.r,1w.9,0.h,7.r,b.9,5.r,r.a,1.g,1.j,2b.9,a.r,0.9,s.a,2.r,25.a,0." ++
  "r,a.a,3.r,1.a,u.f,0.r,1i.9,8.r,d.9,1.r,9.9,1.r,3.9,r.a,3.f,1u.a,n.r,4.a,m.c,9.r,5.b,1.r,5.b,1.r," ++
  "5.b,8.r,6.b,0.r,6.b,0.r,1b.f,3.g,1.f,1.k,3.m,3.r,27.g,19.a,1.r,9.a,5.r,8mb.1,b.r,m.a,3.r,1c.a,3." ++
  "r,1kv.1,565.0,1.c,1m.5,2.a,1.r,2x.7,11.r,6.0,b.r,4.0,4.r,0.3,o.0,0.r,4.0,0.r,0.0,0.r,1.0,0.r,1.0" ++
  ",0.r,2z.0,f.b,0.n,f.r,a4.0,f.n,1r.0,1.r,1h.0,6.r,0.n,v.4,b.0,0.5,0.6,1.n,f.5,9.7,5.r,3.0,2.9,6.f" ++
  ",1.g,k.0,1.5,1.6,9.0,0.r,i.0,0.r,3.0,3.r,2.0,0.5,0.0,0.r,3q.0,1.r,0.0,0.r,2l.0,1.5,2l.0,2.r,5.0," ++
  "1.r,5.0,1.r,5.0,1.r,2.0,2.r,6.0,0.r,6.0,9.r,2.3,0.2,2.0,b.6,0.r,p.6,0.r,i.6,0.r,1.6,0.r,e.6,1.r," ++
  "d.6,x.r,3e.6,4.r,2.6,3.r,18.6,2.r,8.6,22.7,1.f,1.h,0.r,b.9,0.m,2.r,0.f,1a.r,19.9,3l.r,s.9,2.r,1c" ++
  ".9,e.r,r.f,3.r,u.4,0.f,3.4,8.r,2.i,q.4,4.r,16.f,4.r,t.6,0.r,0.6,z.7,3.r,d.7,15.r,11.4,1.6,11.4,2" ++
  "7.6,1.r,9.6,5.r,z.h,3.r,z.h,3.r,13.f,7.r,1f.f,a.r,0.f,a.n,0.r,e.n,0.r,6.n,0.r,1.n,0.r,a.n,0.r,e." ++
  "n,0.r,6.n,0.r,1.n,2.r,1f.q,b.r,8m.f,8.r,l.f,9.r,7.f,n.r,5.n,0.r,15.n,0.r,8.n,1w.r,5.6,1.r,0.6,0." ++
  "r,17.6,0.r,1.6,2.r,0.6,1.r,0.6,l.a,0.r,8.a,1q.f,7.r,8.f,1b.r,i.g,0.r,1.g,4.r,4.g,p.8,1.a,2.r,0.8" ++
  ",p.9,4.r,0.9,1r.r,1j.c,3.r,1.g,1.c,f.g,1.r,19.g,3.7,0.r,1.7,4.r,7.7,0.r,2.7,0.r,q.7,1.j,1.r,2.7," ++
  "3.r,8.7,0.j,6.r,8.7,6.r,v.a,v.f,v.r,12.f,3.r,b.f,8.r,1h.a,2.r,s.a,1.r,q.a,4.r,7.a,h.f,6.r,3.f,b." ++
  "r,6.f,27.r,20.a,1i.r,1e.g,c.r,1e.g,6.r,5.g,13.j,7.r,9.j,5.r,11.q,2.r,s.q,7.r,1.q,5r.r,u.a,0.r,15" ++
  ".m,0.r,2.m,1.r,1.m,f.r,2.q,1i.r,0.q,2.o,13.j,7.r,15.j,l.r,p.n,11.r,r.m,j.r,m.k,8.r,25.b,3.r,t.b," ++
  "5.n,8.r,0.f,1t.a,0.n,9.r,0.j,1.r,o.c,6.r,9.c,5.r,1g.c,0.r,d.c,2.j,0.m,7.r,12.f,8.r,20.c,3.g,0.f," ++
  "1.m,9.c,0.f,4.g,0.r,j.f,a.r,h.f,0.r,16.f,0.h,2.o,1p.r,6.g,0.r,0.g,0.r,3.g,0.r,e.g,0.r,a.g,5.r,1m" ++
  ".f,4.r,9.f,5.r,0.g,2.f,0.r,7.f,1.r,1.f,1.r,l.f,0.r,6.f,0.r,1.f,0.r,4.f,0.r,0.j,8.f,1.r,1.f,1.r,2" ++
  ".f,1.r,0.g,5.r,0.f,4.r,6.f,1.r,6.f,2.r,4.f,a.r,9.q,0.r,0.q,1.r,0.q,0.r,11.q,0.r,9.q,0.r,0.q,1.r," ++
  "0.q,0.r,3.q,0.r,9.q,0.r,1.q,7.r,1.q,s.r,2h.h,0.m,0.h,0.r,0.h,0.j,0.k,1.m,t.r,1z.f,7.r,9.f,4l.r,1" ++
  "h.f,1.r,h.f,j.g,x.r,1w.f,a.r,9.f,5.r,c.h,i.r,1j.c,0.k,0.n,5.r,9.c,5.r,j.q,r.r,p.g,0.j,1.r,e.g,3." ++
  "r,f.g,6.n,54.r,1n.j,2r.r,2a.f,b.r,0.f,6.m,1.r,0.m,1.r,7.m,0.r,1.m,0.r,t.m,0.r,1.m,1.r,b.m,8.r,9." ++
  "m,1x.r,7.k,1.r,19.k,1.r,a.k,q.r,1z.i,7.r,1f.i,1.k,m.i,0.j,4.i,c.r,f.n,1k.f,6.r,9.o,51.r,x.q,d.r," ++
  "9.q,5.r,8.h,0.r,18.h,0.r,d.h,9.r,s.h,2.r,v.h,1.r,l.h,0.r,d.h,20.r,6.i,0.r,1.i,0.r,17.i,2.r,0.i,0" ++
  ".r,1.i,0.r,8.i,7.r,9.i,5.r,5.j,0.r,1.j,0.r,10.j,0.r,1.j,0.r,5.j,6.r,9.j,8l.r,o.j,6.r,g.o,0.r,14." ++
  "o,2.r,r.o,0.q,2c.r,0.m,e.r,1d.k,c.r,0.k,oe.8,15.f,0.g,2t.r,2q.8,b.f,0.r,3.8,0.f,a.r,5f.g,217.r,2" ++
  "q.n,c.r,tq.a,0.o,8.k,s.o,9.r,32y.q,4.r,g6.g,5a0.r,1l.q,1c5.r,fs.b,6.r,u.f,0.r,9.f,3.r,1.f,26.n,0" ++
  ".r,9.n,5.r,t.f,1.r,5.f,9.r,1x.f,9.r,9.f,0.r,6.f,0.r,k.f,4.r,i.f,bz.r,1l.q,5h.r,2i.j,2s.r,1w.c,5." ++
  "k,3.r,0.k,1a.c,8.k,6.r,g.c,1r.r,0.h,0.i,1.k,0.m,a.r,1.m,d.r,4q4.h,4.j,5.k,7.r,ky.h,de.m,14.r,0.q" ++
  ",8.m,6w6.r,3.n,0.r,6.n,0.r,1.n,0.r,1.b,7w.i,3.n,e.r,0.o,s.r,2.k,1.r,0.o,d.r,3.k,7.r,az.i,1s3.r,2" ++
  "y.f,4.r,c.f,2.r,8.f,6.r,9.f,1.r,7.f,317.r,6x.q,5.r,c3.q,23.r,19.n,1.r,m.n,8.r,37.n,1n.r,6t.4,9.r" ++
  ",12.4,1.r,0.9,4z.4,a.g,1.n,k.r,1x.7,3d.r,j.o,b.r,j.j,b.r,2e.6,8.r,h.8,6.j,3q.r,2c.4,0.r,1y.4,0.r" ++
  ",1.4,1.r,0.4,1.r,1.4,1.r,3.4,0.r,b.4,0.r,0.4,0.r,3.4,0.6,1.4,0.r,1s.4,0.r,3.4,1.r,7.4,0.r,6.4,0." ++
  "r,r.4,0.r,3.4,0.r,4.4,0.r,0.4,2.r,6.4,0.r,9d.4,1.7,1.r,81.4,1.8,1.r,1d.4,i3.g,e.r,4.g,0.r,e.g,un" ++
  ".r,u.n,5.r,5.o,5w.r,6.h,0.r,g.h,1.r,6.h,0.r,1.h,0.r,4.h,4.r,1p.o,w.r,0.o,33.r,18.k,2.r,d.k,1.r,9" ++
  ".k,3.r,1.k,8v.r,u.n,g.r,1l.k,4.r,0.k,cv.r,15.o,5x.r,16.q,3.r,0.q,db.r,6.n,0.r,3.n,0.r,1.n,0.r,e." ++
  "n,0.r,5g.f,1.r,f.f,14.r,22.h,0.k,3.r,9.h,3.r,1.h,ls.r,1v.j,23.r,1o.k,5d.r,3.c,0.r,q.c,0.r,1.c,0." ++
  "r,0.c,1.r,0.c,0.r,9.c,0.r,3.c,0.r,0.c,0.r,0.c,5.r,0.c,3.r,0.c,0.r,0.c,0.r,0.c,0.r,2.c,0.r,1.c,0." ++
  "r,0.c,1.r,0.c,0.r,0.c,0.r,0.c,0.r,0.c,0.r,0.c,0.r,1.c,0.r,0.c,1.r,3.c,0.r,6.c,0.r,3.c,0.r,3.c,0." ++
  "r,0.c,0.r,9.c,0.r,g.c,4.r,2.c,0.r,4.c,0.r,g.c,1f.r,1.c,7h.r,17.9,3.r,2r.9,b.r,e.b,1.r,d.b,0.f,0." ++
  "r,e.b,0.r,e.b,l.f,9.r,a.a,1.f,2.m,u.a,0.j,0.b,0.a,a.b,0.a,0.b,0.a,1.b,0.a,2.b,0.a,2.b,4.a,7.b,0." ++
  "a,6.b,0.a,9.b,1.c,0.k,2.m,8.b,0.a,0.b,1.a,1.b,0.a,9.b,3.a,1.b,0.a,9.b,h.h,0.m,1j.r,p.b,0.a,1.b,c" ++
  ".r,x.a,8.b,0.h,3.r,8.a,6.r,1.b,d.r,5.i,49.r,w.b,b.f,2.g,5.b,0.f,1x.b,0.f,1.g,j.b,b.f,10.b,0.f,4." ++
  "b,3.f,4.g,b.f,g.b,6.f,7.g,1q.b,0.f,0.b,0.f,51.b,0.f,3.b,1.f,0.g,1p.b,1.f,3.c,6.f,4.g,n.b,h.f,0.h" ++
  ",14.f,0.h,2d.f,4.b,0.c,f.b,0.c,2.b,0.c,0.b,0.c,0.b,0.c,0.b,0.c,2.b,0.c,5.b,1.c,3.b,0.c,0.b,1.c,3" ++
  ".b,0.c,b.b,1.f,1.g,a.b,1b.f,1x.b,9.f,0.g,1.h,1.i,0.k,1.m,3.r,0.o,2.n,c.f,2.r,3.f,2.h,1.i,0.j,0.k" ++
  ",1.m,2.r,37.b,2.o,3.r,4.o,2c.f,3.j,0.o,5.r,b.k,3.r,0.n,e.r,b.f,3.r,1j.f,7.r,9.f,5.r,13.f,7.r,t.f" ++
  ",1.r,1.m,9.q,3.r,1.q,1p.r,b.i,0.m,2.k,8.g,5.h,0.i,7.h,7.i,0.h,1.i,b.h,0.k,b.h,0.i,2.j,e.h,c.i,4." ++
  "j,0.k,0.m,3.j,1.m,0.n,0.j,0.k,3.j,4.g,c.h,5.i,a.j,1.m,5.k,2.m,1.k,9.j,5.k,0.g,1.j,7.k,0.m,0.n,2." ++
  "k,m.i,o.j,2b.k,b.r,d.j,1.r,3.k,0.m,2.o,2.k,1.n,2.r,2.k,3.m,1.o,0.q,4.r,0.q,5.k,i.m,3.n,2.o,6.m,3" ++
  ".n,2.o,0.q,0.o,2.m,2.n,0.q,6.r,1.o,6.m,2.n,1.o,0.q,1.r,0.q,7.n,0.o,0.q,5.r,6.n,1.o,6.r,42.m,0.r," ++
  "1i.m,10.q,9.m,sj.r,1.1,wye.4,6.m,1.n,v.r,378.a,3.n,0.o,5.r,65.b,1.r,4g1.g,d.r,5rk.i,e.r,h9.p,1wh" ++
  ".r,f1.4,15r.r,1.1,3t6.m,4.r,38f.o,17il.r,1.1,1ekd.r,1.1,1ekd.r,1.1,1ekd.r,1.1,1ekd.r,1.1,1ekd.r," ++
  "1.1,1ekd.r,1.1,1ekd.r,1.1,1ekd.r,1.1,1ekd.r,1.1,1ekd.r,1.1,0.r,0.4,t.r,2n.4,3j.r,6n.6,1e6l.r,2t4" ++
  "x.1"

/-- The runs of grapheme cluster break classes, packed. -/
def packedGraphemeBreaks : String :=
  "9.0,0.8,1.0,0.1,h.0,2m.g,w.0,c.g,0.0,gh.g,33.5,7m.g,6.5,7a.g,18.5,0.g,0.5,0.g,1.5,0.g,1.5,0.g,0." ++
  "5,1j.g,5.b,9.g,a.5,0.g,0.0,19.g,k.5,f.g,0.5,2s.g,6.5,0.b,0.g,5.5,1.g,1.5,0.g,3.5,w.g,0.b,0.g,0.5" ++
  ",t.g,q.5,2i.g,a.5,1l.g,8.5,8.g,0.5,n.g,3.5,0.g,8.5,0.g,2.5,0.g,4.5,16.g,2.5,1f.g,1.b,4.g,8.5,15." ++
  "g,n.5,0.b,v.5,0.d,1h.g,0.5,0.d,0.5,0.g,2.d,7.5,3.d,0.5,1.d,0.g,6.5,9.g,1.5,s.g,0.5,1.d,1j.g,0.5," ++
  "0.g,0.5,1.d,3.5,1.g,1.d,1.g,1.d,0.5,8.g,0.5,9.g,1.5,p.g,0.5,1.g,1.5,0.d,1j.g,0.5,0.g,2.d,1.5,3.g" ++
  ",1.5,1.g,2.5,2.g,0.5,t.g,1.5,2.g,0.5,a.g,1.5,0.d,1j.g,0.5,0.g,2.d,4.5,0.g,1.5,0.d,0.g,1.d,0.5,j." ++
  "g,1.5,l.g,5.5,0.g,0.5,1.d,1j.g,0.5,0.g,1.5,0.d,3.5,1.g,1.d,1.g,1.d,0.5,6.g,2.5,9.g,1.5,t.g,0.5,1" ++
  "m.g,0.5,0.d,0.5,1.d,2.g,2.d,0.g,2.d,0.5,8.g,0.5,13.g,0.5,2.d,0.5,1i.g,0.5,0.g,2.5,3.d,0.g,2.5,0." ++
  "g,3.5,6.g,1.5,a.g,1.5,s.g,0.5,1.d,1j.g,0.5,0.g,0.d,1.5,0.d,0.5,1.d,0.g,2.5,0.g,3.5,6.g,1.5,a.g,1" ++
  ".5,e.g,0.d,b.g,1.5,1.d,1i.g,1.5,0.g,0.5,1.d,3.5,0.g,2.d,0.g,2.d,0.5,0.b,7.g,0.5,9.g,1.5,s.g,0.5," ++
  "1.d,1x.g,0.5,3.g,0.5,1.d,2.5,0.g,0.5,0.g,6.d,0.5,h.g,1.d,1o.g,0.5,0.g,0.d,6.5,b.g,7.5,2p.g,0.5,0" ++
  ".g,0.d,8.5,a.g,6.5,20.g,1.5,q.g,0.5,0.g,0.5,0.g,0.5,3.g,1.d,1c.g,d.5,0.d,4.5,0.g,1.5,4.g,a.5,0.g" ++
  ",z.5,8.g,0.5,2t.g,3.5,0.d,5.5,0.g,1.5,1.d,1.5,m.g,1.d,1.5,3.g,2.5,f.g,3.5,c.g,0.5,0.g,0.d,1.5,5." ++
  "g,0.5,e.g,0.5,2p.g,2n.7,1z.f,2f.e,9o.g,2.5,q9.g,3.5,r.g,2.5,s.g,1.5,t.g,1.5,1r.g,1.5,0.d,6.5,7.d" ++
  ",0.5,1.d,a.5,8.g,0.5,18.g,2.5,0.0,0.5,38.g,1.5,x.g,0.5,39.g,2.5,3.d,1.5,2.d,3.g,1.d,0.5,5.d,2.5," ++
  "62.g,1.5,1.d,0.5,1k.g,0.d,0.5,0.d,6.5,0.g,0.5,0.g,0.5,1.g,7.5,5.d,9.5,1.g,0.5,1b.g,u.5,1c.g,3.5," ++
  "0.d,1a.g,9.5,3.d,2.5,11.g,8.5,b.g,1.5,0.d,t.g,0.d,3.5,1.d,5.5,1j.g,0.5,0.d,1.5,2.d,0.5,0.d,4.5,1" ++
  "b.g,7.d,7.5,1.d,1.5,47.g,2.5,0.g,c.5,0.d,6.5,3.g,0.5,5.g,0.5,1.g,0.d,1.5,5h.g,1r.5,ei.g,0.0,0.5," ++
  "0.h,1.0,n.g,6.0,1c.g,f.0,2n.g,w.5,2d9.g,2.5,3w.g,0.5,2n.g,v.5,fd.g,5.5,2w.g,1.5,n9v.g,3.5,0.g,9." ++
  "5,v.g,1.5,27.g,1.5,7j.g,0.5,2.g,0.5,3.g,0.5,m.g,1.d,1.5,0.d,3.g,0.5,2a.g,1.d,1d.g,f.d,1.5,p.g,h." ++
  "5,c.g,0.5,11.g,7.5,o.g,a.5,0.d,0.5,b.g,s.7,2.g,2.5,0.d,1a.g,0.5,1.d,3.5,1.d,1.5,1.d,0.5,z.g,0.5," ++
  "1u.g,5.5,1.d,1.5,1.d,1.5,b.g,0.5,7.g,0.5,0.d,19.g,0.5,1e.g,0.5,0.g,2.5,1.g,1.5,4.g,1.5,0.g,0.5,1" ++
  "4.g,0.d,1.5,1.d,4.g,0.d,0.5,6j.g,1.d,0.5,1.d,0.5,1.d,0.g,0.d,0.5,h.g,0.9,q.a,0.9,q.a,0.9,q.a,0.9" ++
  ",q.a,0.9,q.a,0.9,q.a,0.9,q.a,0.9,q.a,0.9,q.a,0.9,q.a,0.9,q.a,0.9,q.a,0.9,q.a,0.9,q.a,0.9,q.a,0.9" ++
  ",q.a,0.9,q.a,0.9,q.a,0.9,q.a,0.9,q.a,0.9,q.a,0.9,q.a,0.9,q.a,0.9,q.a,0.9,q.a,0.9,q.a,0.9,q.a,0.9" ++
  ",q.a,0.9,q.a,0.9,q.a,0.9,q.a,0.9,q.a,0.9,q.a,0.9,q.a,0.9,q.a,0.9,q.a,0.9,q.a,0.9,q.a,0.9,q.a,0.9" ++
  ",q.a,0.9,q.a,0.9,q.a,0.9,q.a,0.9,q.a,0.9,q.a,0.9,q.a,0.9,q.a,0.9,q.a,0.9,q.a,0.9,q.a,0.9,q.a,0.9" ++
  ",q.a,0.9,q.a,0.9,q.a,0.9,q.a,0.9,q.a,0.9,q.a,0.9,q.a,0.9,q.a,0.9,q.a,0.9,q.a,0.9,q.a,0.9,q.a,0.9" ++
  ",q.a,0.9,q.a,0.9,q.a,0.9,q.a,0.9,q.a,0.9,q.a,0.9,q.a,0.9,q.a,0.9,q.a,0.9,q.a,0.9,q.a,0.9,q.a,0.9" ++
  ",q.a,0.9,q.a,0.9,q.a,0.9,q.a,0.9,q.a,0.9,q.a,0.9,q.a,0.9,q.a,0.9,q.a,0.9,q.a,0.9,q.a,0.9,q.a,0.9" ++
  ",q.a,0.9,q.a,0.9,q.a,0.9,q.a,0.9,q.a,0.9,q.a,0.9,q.a,0.9,q.a,0.9,q.a,0.9,q.a,0.9,q.a,0.9,q.a,0.9" ++
  ",q.a,0.9,q.a,0.9,q.a,0.9,q.a,0.9,q.a,0.9,q.a,0.9,q.a,0.9,q.a,0.9,q.a,0.9,q.a,0.9,q.a,0.9,q.a,0.9" ++
  ",q.a,0.9,q.a,0.9,q.a,0.9,q.a,0.9,q.a,0.9,q.a,0.9,q.a,0.9,q.a,0.9,q.a,0.9,q.a,0.9,q.a,0.9,q.a,0.9" ++
  ",q.a,0.9,q.a,0.9,q.a,0.9,q.a,0.9,q.a,0.9,q.a,0.9,q.a,0.9,q.a,0.9,q.a,0.9,q.a,0.9,q.a,0.9,q.a,0.9" ++
  ",q.a,0.9,q.a,0.9,q.a,0.9,q.a,0.9,q.a,0.9,q.a,0.9,q.a,0.9,q.a,0.9,q.a,0.9,q.a,0.9,q.a,0.9,q.a,0.9" ++
  ",q.a,0.9,q.a,0.9,q.a,0.9,q.a,0.9,q.a,0.9,q.a,0.9,q.a,0.9,q.a,0.9,q.a,0.9,q.a,0.9,q.a,0.9,q.a,0.9" ++
  ",q.a,0.9,q.a,0.9,q.a,0.9,q.a,0.9,q.a,0.9,q.a,0.9,q.a,0.9,q.a,0.9,q.a,0.9,q.a,0.9,q.a,0.9,q.a,0.9" ++
  ",q.a,0.9,q.a,0.9,q.a,0.9,q.a,0.9,q.a,0.9,q.a,0.9,q.a,0.9,q.a,0.9,q.a,0.9,q.a,0.9,q.a,0.9,q.a,0.9" ++
  ",q.a,0.9,q.a,0.9,q.a,0.9,q.a,0.9,q.a,0.9,q.a,0.9,q.a,0.9,q.a,0.9,q.a,0.9,q.a,0.9,q.a,0.9,q.a,0.9" ++
  ",q.a,0.9,q.a,0.9,q.a,0.9,q.a,0.9,q.a,0.9,q.a,0.9,q.a,0.9,q.a,0.9,q.a,0.9,q.a,0.9,q.a,0.9,q.a,0.9" ++
  ",q.a,0.9,q.a,0.9,q.a,0.9,q.a,0.9,q.a,0.9,q.a,0.9,q.a,0.9,q.a,0.9,q.a,0.9,q.a,0.9,q.a,0.9,q.a,0.9" ++
  ",q.a,0.9,q.a,0.9,q.a,0.9,q.a,0.9,q.a,0.9,q.a,0.9,q.a,0.9,q.a,0.9,q.a,0.9,q.a,0.9,q.a,0.9,q.a,0.9" ++
  ",q.a,0.9,q.a,0.9,q.a,0.9,q.a,0.9,q.a,0.9,q.a,0.9,q.a,0.9,q.a,0.9,q.a,0.9,q.a,0.9,q.a,0.9,q.a,0.9" ++
  ",q.a,0.9,q.a,0.9,q.a,0.9,q.a,0.9,q.a,0.9,q.a,0.9,q.a,0.9,q.a,0.9,q.a,0.9,q.a,0.9,q.a,0.9,q.a,0.9" ++
  ",q.a,0.9,q.a,0.9,q.a,0.9,q.a,0.9,q.a,0.9,q.a,0.9,q.a,0.9,q.a,0.9,q.a,0.9,q.a,0.9,q.a,0.9,q.a,0.9" ++
  ",q.a,0.9,q.a,0.9,q.a,0.9,q.a,0.9,q.a,0.9,q.a,0.9,q.a,0.9,q.a,0.9,q.a,0.9,q.a,0.9,q.a,0.9,q.a,0.9" ++
  ",q.a,0.9,q.a,0.9,q.a,0.9,q.a,0.9,q.a,0.9,q.a,0.9,q.a,0.9,q.a,0.9,q.a,0.9,q.a,0.9,q.a,0.9,q.a,0.9" ++
  ",q.a,0.9,q.a,0.9,q.a,0.9,q.a,0.9,q.a,0.9,q.a,0.9,q.a,0.9,q.a,0.9,q.a,0.9,q.a,0.9,q.a,0.9,q.a,0.9" ++
  ",q.a,0.9,q.a,0.9,q.a,0.9,q.a,0.9,q.a,0.9,q.a,0.9,q.a,0.9,q.a,0.9,q.a,0.9,q.a,0.9,q.a,0.9,q.a,0.9" ++
  ",q.a,0.9,q.a,0.9,q.a,0.9,q.a,0.9,q.a,0.9,q.a,0.9,q.a,0.9,q.a,0.9,q.a,0.9,q.a,0.9,q.a,0.9,q.a,0.9" ++
  ",q.a,0.9,q.a,0.9,q.a,0.9,q.a,0.9,q.a,0.9,q.a,0.9,q.a,0.9,q.a,0.9,q.a,0.9,q.a,0.9,q.a,0.9,q.a,0.9" ++
  ",q.a,0.9,q.a,0.9,q.a,0.9,q.a,0.9,q.a,0.9,q.a,0.9,q.a,0.9,q.a,0.9,q.a,0.9,q.a,0.9,q.a,0.9,q.a,0.9" ++
  ",q.a,0.9,q.a,0.9,q.a,0.9,q.a,0.9,q.a,0.9,q.a,0.9,q.a,0.9,q.a,0.9,q.a,0.9,q.a,0.9,q.a,0.9,q.a,0.9" ++
  ",q.a,0.9,q.a,0.9,q.a,0.9,q.a,0.9,q.a,0.9,q.a,0.9,q.a,0.9,q.a,0.9,q.a,0.9,q.a,0.9,q.a,0.9,q.a,0.9" ++
  ",q.a,0.9,q.a,0.9,q.a,0.9,q.a,0.9,q.a,0.9,q.a,0.9,q.a,0.9,q.a,0.9,q.a,0.9,q.a,0.9,q.a,0.9,q.a,0.9" ++
  ",q.a,0.9,q.a,0.9,q.a,0.9,q.a,0.9,q.a,0.9,q.a,0.9,q.a,0.9,q.a,0.9,q.a,0.9,q.a,0.9,q.a,0.9,q.a,b.g" ++
  ",m.f,3.g,1c.e,6xt.g,0.5,kg.g,f.5,f.g,f.5,5q.g,0.0,4d.g,1.5,27.g,b.0,e8.g,0.5,69.g,0.5,44.g,4.5,1" ++
  "ad.g,2.5,0.g,1.5,4.g,3.5,13.g,2.5,3.g,0.5,4k.g,1.5,fw.g,3.5,1s.g,4.5,8s.g,1.5,26.g,3.5,1x.g,a.5," ++
  "1c.g,3.5,3d.g,0.d,0.5,0.d,1g.g,e.5,14.g,0.5,1.g,1.5,9.g,2.5,0.d,18.g,2.d,3.5,1.d,1.5,1.g,0.b,3.g" ++
  ",0.5,9.g,0.b,1d.g,2.5,z.g,4.5,0.d,7.5,f.g,1.d,17.g,0.5,b.g,1.5,0.d,1b.g,2.d,8.5,0.d,0.5,0.g,1.b," ++
  "4.g,3.5,0.g,0.d,0.5,2j.g,2.d,2.5,1.d,3.5,5.g,0.5,1.g,0.5,4c.g,0.5,2.d,7.5,k.g,1.5,1.d,1i.g,1.5,0" ++
  ".g,0.5,0.d,0.5,3.d,1.g,1.d,1.g,1.d,0.5,8.g,0.5,9.g,1.d,1.g,6.5,2.g,4.5,1u.g,0.5,1.d,5.5,0.g,0.5," ++
  "1.g,0.5,0.g,2.5,0.d,0.g,1.d,2.5,0.g,0.5,d.g,1.5,29.g,2.d,7.5,1.d,2.5,0.d,0.5,m.g,0.5,28.g,0.5,1." ++
  "d,5.5,0.d,0.5,1.d,0.5,0.d,1.5,0.d,1.5,6i.g,0.5,1.d,3.5,1.g,3.d,1.5,0.d,1.5,q.g,1.5,29.g,2.d,7.5," ++
  "1.d,0.5,0.d,1.5,2x.g,0.5,0.d,0.5,1.d,7.5,2s.g,2.5,1.g,3.5,0.d,4.5,73.g,2.d,8.5,0.d,1.5,6s.g,0.5," ++
  "4.d,0.g,1.d,1.g,3.5,0.b,0.d,0.b,0.d,0.5,3w.g,2.d,3.5,1.g,1.5,3.d,0.5,2.g,0.d,r.g,9.5,13.g,5.5,0." ++
  "d,0.b,3.5,7.g,0.5,8.g,5.5,1.d,2.5,13.g,5.b,c.5,0.d,1.5,b8.g,0.d,6.5,0.g,5.5,0.d,0.5,29.g,l.5,0.g" ++
  ",0.d,6.5,0.d,1.5,0.d,1.5,3d.g,5.5,2.g,0.5,0.g,1.5,0.g,6.5,0.b,0.5,1t.g,4.d,0.g,1.5,0.g,1.d,0.5,0" ++
  ".d,0.5,9m.g,1.5,1.d,8.g,1.5,0.b,0.d,1b.g,1.d,4.5,2.g,1.d,2.5,m.g,0.5,444.g,f.0,0.5,5.g,e.5,8uf.g" ++
  ",b.5,2.d,2.5,1xb.g,4.5,1m.g,6.5,t3.g,0.5,0.g,1i.d,6.g,3.5,28.g,0.5,a.g,1.5,f56.g,1.5,0.g,3.0,3mj" ++
  ".g,19.5,1.g,m.5,f1.g,4.5,2.g,5.5,7.0,7.5,1.g,6.5,t.g,3.5,43.g,2.5,1iy.g,1i.5,3.g,1d.5,7.g,0.5,d." ++
  "g,0.5,l.g,4.5,0.g,e.5,11r.g,6.5,0.g,g.5,1.g,6.5,0.g,1.5,0.g,4.5,2r.g,0.5,4f.g,6.5,ae.g,0.5,1o.g," ++
  "3.5,e3.g,3.5,71.g,1.5,kf.g,6.5,30.g,6.5,1p6.g,p.c,e2.g,4.5,gx6n.g,v.0,2n.5,3j.0,6n.5,2rz.0,44jj." ++
  "g"

/-- The runs of word break classes, packed. -/
def packedWordBreaks : String :=
  "9.l,0.c,1.g,0.0,h.l,0.k,0.l,0.1,3.l,0.j,3.l,0.f,0.l,0.d,0.l,9.h,0.e,0.f,4.l,p.b,3.l,0.5,0.l,p.b," ++
  "9.l,0.g,z.l,0.b,1.l,0.7,6.l,0.b,0.l,0.e,1.l,0.b,4.l,m.b,0.l,u.b,0.l,db.b,5.l,x.b,33.6,4.b,0.l,1." ++
  "b,1.l,3.b,0.f,0.b,5.l,0.b,0.e,2.b,0.l,0.b,0.l,j.b,0.l,2a.b,0.l,3u.b,0.l,6.6,4l.b,0.l,11.b,1.l,3." ++
  "b,0.l,0.b,0.e,14.b,0.f,0.b,5.l,18.6,0.l,0.6,0.l,1.6,0.l,1.6,0.l,0.6,7.l,q.9,3.l,3.9,0.b,0.e,a.l," ++
  "5.7,5.l,1.f,1.l,a.6,0.l,0.7,2.l,16.b,k.6,9.h,0.l,0.h,0.f,0.l,1.b,0.6,2q.b,0.l,0.b,6.6,0.7,0.l,5." ++
  "6,1.b,1.6,0.l,3.6,1.b,9.h,2.b,1.l,0.b,e.l,0.7,0.b,0.6,t.b,q.6,1.l,2g.b,a.6,0.b,d.l,9.h,w.b,8.6,1" ++
  ".b,1.l,0.f,0.l,0.b,1.l,0.6,1.l,l.b,3.6,0.b,8.6,0.b,2.6,0.b,4.6,h.l,o.b,2.6,3.l,a.b,4.l,n.b,0.l,5" ++
  ".b,0.l,1.7,4.l,8.6,15.b,n.6,0.7,w.6,1h.b,2.6,0.b,h.6,0.b,6.6,9.b,1.6,1.l,9.h,0.l,f.b,2.6,0.l,7.b" ++
  ",1.l,1.b,1.l,l.b,0.l,6.b,0.l,0.b,2.l,3.b,1.l,0.6,0.b,6.6,1.l,1.6,1.l,2.6,0.b,7.l,0.6,3.l,1.b,0.l" ++
  ",2.b,1.6,1.l,9.h,1.b,9.l,0.b,0.l,0.6,1.l,2.6,0.l,5.b,3.l,1.b,1.l,l.b,0.l,6.b,0.l,1.b,0.l,1.b,0.l" ++
  ",1.b,1.l,0.6,0.l,4.6,3.l,1.6,1.l,2.6,2.l,0.6,6.l,3.b,0.l,0.b,6.l,9.h,1.6,2.b,0.6,a.l,2.6,0.l,8.b" ++
  ",0.l,2.b,0.l,l.b,0.l,6.b,0.l,1.b,0.l,4.b,1.l,0.6,0.b,7.6,0.l,2.6,0.l,2.6,1.l,0.b,e.l,1.b,1.6,1.l" ++
  ",9.h,8.l,0.b,5.6,0.l,2.6,0.l,7.b,1.l,1.b,1.l,l.b,0.l,6.b,0.l,1.b,0.l,4.b,1.l,0.6,0.b,6.6,1.l,1.6" ++
  ",1.l,2.6,6.l,2.6,3.l,1.b,0.l,2.b,1.6,1.l,9.h,0.l,0.b,f.l,0.6,0.b,0.l,5.b,2.l,2.b,0.l,3.b,2.l,1.b" ++
  ",0.l,0.b,0.l,1.b,2.l,1.b,2.l,2.b,2.l,b.b,3.l,4.6,2.l,2.6,0.l,3.6,1.l,0.b,5.l,0.6,d.l,9.h,f.l,4.6" ++
  ",7.b,0.l,2.b,0.l,m.b,0.l,f.b,1.l,0.6,0.b,6.6,0.l,2.6,0.l,3.6,6.l,1.6,0.l,2.b,1.l,0.b,1.l,1.b,1.6" ++
  ",1.l,9.h,f.l,0.b,2.6,0.l,7.b,0.l,2.b,0.l,m.b,0.l,9.b,0.l,4.b,1.l,0.6,0.b,6.6,0.l,2.6,0.l,3.6,6.l" ++
  ",1.6,5.l,1.b,0.l,1.b,1.6,1.l,9.h,0.l,1.b,0.6,b.l,3.6,8.b,0.l,2.b,0.l,14.b,1.6,0.b,6.6,0.l,2.6,0." ++
  "l,3.6,0.b,4.l,2.b,0.6,6.l,2.b,1.6,1.l,9.h,9.l,5.b,0.l,2.6,0.l,h.b,2.l,n.b,0.l,8.b,0.l,0.b,1.l,6." ++
  "b,2.l,0.6,3.l,5.6,0.l,0.6,0.l,7.6,5.l,9.h,1.l,1.6,1o.l,0.6,1.l,6.6,b.l,7.6,0.l,9.h,2e.l,0.6,1.l," ++
  "8.6,a.l,6.6,0.l,9.h,11.l,0.b,m.l,1.6,5.l,9.h,a.l,0.6,0.l,0.6,0.l,0.6,3.l,1.6,7.b,0.l,z.b,3.l,j.6" ++
  ",0.l,1.6,4.b,a.6,0.l,z.6,8.l,0.6,2r.l,j.6,0.l,9.h,b.l,3.6,3.l,2.6,0.l,2.6,1.l,6.6,2.l,3.6,c.l,b." ++
  "6,0.l,0.6,9.h,3.6,1.l,11.b,0.l,0.b,4.l,0.b,1.l,16.b,0.l,98.b,0.l,3.b,1.l,6.b,0.l,0.b,0.l,3.b,1.l" ++
  ",14.b,0.l,3.b,1.l,w.b,0.l,3.b,1.l,6.b,0.l,0.b,0.l,3.b,1.l,e.b,0.l,1k.b,0.l,3.b,1.l,1u.b,1.l,2.6," ++
  "v.l,f.b,f.l,2d.b,1.l,5.b,2.l,h7.b,1.l,g.b,0.k,p.b,4.l,22.b,2.l,a.b,6.l,h.b,3.6,8.l,i.b,2.6,a.l,h" ++
  ".b,1.6,b.l,c.b,0.l,2.b,0.l,1.6,1r.l,v.6,8.l,0.6,1.l,9.h,w.l,2.6,0.7,0.6,9.h,5.l,2g.b,6.l,4.b,1.6" ++
  ",x.b,0.6,0.b,4.l,1x.b,9.l,u.b,0.l,b.6,3.l,b.6,9.l,9.h,3j.l,9.h,11.l,m.b,4.6,1k.l,9.6,0.l,s.6,1.l" ++
  ",0.6,9.h,5.l,9.h,l.l,u.6,1c.l,4.6,1a.b,g.6,7.b,2.l,9.h,g.l,8.6,b.l,2.6,t.b,c.6,1.b,9.h,17.b,d.6," ++
  "b.l,z.b,j.6,7.l,9.h,2.l,2.b,9.h,z.b,1.l,a.b,4.l,16.b,1.l,2.b,f.l,2.6,0.l,k.6,3.b,0.6,5.b,0.6,1.b" ++
  ",2.6,0.b,4.l,5b.b,1r.6,7p.b,1.l,5.b,1.l,11.b,1.l,5.b,1.l,7.b,0.l,0.b,0.l,0.b,0.l,0.b,0.l,u.b,1.l" ++
  ",1g.b,0.l,6.b,0.l,0.b,2.l,2.b,0.l,6.b,2.l,3.b,1.l,5.b,3.l,c.b,4.l,2.b,0.l,6.b,2.l,6.k,0.l,2.k,0." ++
  "l,0.6,0.m,1.7,7.l,1.d,9.l,0.d,1.l,0.e,1.g,4.7,0.5,e.l,1.5,2.l,0.f,e.l,0.5,9.l,0.k,4.7,0.l,9.7,0." ++
  "l,0.b,c.l,0.b,f.l,c.b,1e.l,w.6,g.l,0.b,3.l,0.b,1.l,9.b,0.l,0.b,2.l,4.b,5.l,0.b,0.l,0.b,0.l,0.b,0" ++
  ".l,3.b,0.l,a.b,1.l,3.b,4.l,4.b,3.l,0.b,g.l,14.b,mk.l,1f.b,1ed.l,6c.b,5.l,3.b,2.6,1.b,b.l,11.b,0." ++
  "l,0.b,4.l,0.b,1.l,1j.b,6.l,0.b,e.l,0.6,m.b,8.l,6.b,0.l,6.b,0.l,6.b,0.l,6.b,0.l,6.b,0.l,6.b,0.l,6" ++
  ".b,0.l,6.b,0.l,v.6,1a.l,0.b,cv.l,0.k,3.l,0.b,z.l,5.6,0.l,4.a,4.l,1.b,2j.l,1.6,1.a,2.l,2i.a,0.l,3" ++
  ".a,4.l,16.b,0.l,2l.b,g.l,v.b,1b.l,f.a,5r.l,1a.a,0.l,2f.a,lgn.l,wc.b,1u.l,19.b,1.l,7g.b,2.l,f.b,9" ++
  ".h,1.b,j.l,1a.b,3.6,0.l,9.6,0.l,u.b,1.6,27.b,1.6,l.l,5h.b,1.l,1.b,0.l,0.b,0.l,7.b,k.l,f.b,0.6,2." ++
  "b,0.6,3.b,0.6,m.b,4.6,3.l,0.6,i.l,1f.b,b.l,1.6,1d.b,h.6,9.l,9.h,5.l,h.6,5.b,2.l,0.b,0.l,1.b,0.6," ++
  "9.h,r.b,7.6,1.l,m.b,c.6,b.l,s.b,2.l,3.6,1a.b,d.6,d.l,0.b,9.h,a.l,0.6,9.l,9.h,5.l,14.b,d.6,8.l,2." ++
  "b,0.6,7.b,1.6,1.l,9.h,w.l,2.6,1d.l,0.6,0.l,2.6,1.l,1.6,4.l,1.6,0.l,0.6,t.l,a.b,4.6,1.l,2.b,1.6,9" ++
  ".l,5.b,1.l,5.b,1.l,5.b,8.l,6.b,0.l,6.b,0.l,1l.b,5.l,36.b,7.6,0.l,1.6,1.l,9.h,5.l,8mb.b,b.l,m.b,3" ++
  ".l,1c.b,6wz.l,6.b,b.l,4.b,4.l,0.9,0.6,9.9,0.l,c.9,0.l,4.9,0.l,0.9,0.l,1.9,0.l,1.9,0.l,9.9,2p.b,w" ++
  ".l,a2.b,h.l,1r.b,1.l,1h.b,13.l,b.b,3.l,f.6,0.f,1.l,0.e,0.f,a.l,f.6,2.l,1.5,n.l,2.5,0.f,0.l,0.d,0" ++
  ".l,0.f,0.e,p.l,4.b,0.l,3q.b,1.l,0.7,6.l,0.d,3.l,0.f,0.l,0.d,0.l,9.h,0.e,0.f,4.l,p.b,3.l,0.5,0.l," ++
  "p.b,a.l,1j.a,1.6,u.b,2.l,5.b,1.l,5.b,1.l,5.b,1.l,2.b,r.l,2.7,3.l,b.b,0.l,p.b,0.l,i.b,0.l,1.b,0.l" ++
  ",e.b,1.l,d.b,x.l,3e.b,1w.l,1g.b,3r.l,0.6,3l.l,s.b,2.l,1c.b,e.l,0.6,u.l,v.b,c.l,t.b,4.l,11.b,4.6," ++
  "4.l,t.b,1.l,z.b,3.l,7.b,0.l,4.b,15.l,4d.b,1.l,9.h,5.l,z.b,3.l,z.b,3.l,13.b,7.l,1f.b,b.l,a.b,0.l," ++
  "e.b,0.l,6.b,0.l,1.b,0.l,a.b,0.l,e.b,0.l,6.b,0.l,1.b,2.l,1f.b,b.l,8m.b,8.l,l.b,9.l,7.b,n.l,5.b,0." ++
  "l,15.b,0.l,8.b,1w.l,5.b,1.l,0.b,0.l,17.b,0.l,1.b,2.l,0.b,1.l,m.b,9.l,m.b,8.l,u.b,1s.l,i.b,0.l,1." ++
  "b,9.l,l.b,9.l,p.b,1x.l,1j.b,5.l,1.b,1r.l,0.b,2.6,0.l,1.6,4.l,3.6,3.b,0.l,2.b,0.l,s.b,1.l,2.6,3.l" ++
  ",0.6,v.l,s.b,2.l,s.b,y.l,7.b,0.l,r.b,1.6,o.l,1h.b,9.l,l.b,9.l,i.b,c.l,h.b,31.l,20.b,1i.l,1e.b,c." ++
  "l,1e.b,c.l,z.b,3.6,7.l,9.h,5.l,9.h,r.b,2.l,4.6,0.l,m.b,6x.l,15.b,0.l,1.6,2.l,1.b,f.l,2.b,1i.l,3." ++
  "6,s.b,9.l,0.b,7.l,l.b,a.6,u.l,h.b,3.6,15.l,k.b,q.l,m.b,8.l,2.6,1g.b,e.6,u.l,9.h,0.6,1.b,1.6,0.b," ++
  "8.l,3.6,18.b,a.6,1.l,0.7,3.l,0.6,9.l,0.7,1.l,o.b,6.l,9.h,5.l,2.6,z.b,d.6,0.l,9.h,3.l,0.b,1.6,0.b" ++
  ",7.l,y.b,0.6,1.l,0.b,8.l,2.6,1b.b,d.6,3.b,3.l,3.6,0.l,1.6,9.h,0.b,0.l,0.b,y.l,h.b,0.l,o.b,b.6,5." ++
  "l,0.6,1.b,0.6,1p.l,6.b,0.l,0.b,0.l,3.b,0.l,e.b,0.l,9.b,6.l,1a.b,b.6,4.l,9.h,5.l,3.6,0.l,7.b,1.l," ++
  "1.b,1.l,l.b,0.l,6.b,0.l,1.b,0.l,4.b,0.l,1.6,0.b,6.6,1.l,1.6,1.l,2.6,1.l,0.b,5.l,0.6,4.l,4.b,1.6," ++
  "1.l,6.6,2.l,4.6,a.l,9.b,0.l,0.b,1.l,0.b,0.l,11.b,0.l,0.b,8.6,0.l,0.6,1.l,0.6,0.l,3.6,0.l,4.6,0.b" ++
  ",0.6,0.b,c.l,1.6,s.l,1g.b,h.6,3.b,4.l,9.h,3.l,0.6,2.b,t.l,1b.b,j.6,1.b,0.l,0.b,7.l,9.h,4l.l,1a.b" ++
  ",6.6,1.l,8.6,m.l,3.b,1.6,x.l,1b.b,g.6,2.l,0.b,a.l,9.h,11.l,16.b,c.6,0.b,6.l,9.h,5.l,j.h,1k.l,e.6" ++
  ",3.l,9.h,5h.l,17.b,e.6,2s.l,1r.b,9.h,k.l,7.b,1.l,0.b,1.l,7.b,0.l,1.b,0.l,n.b,5.6,0.l,1.6,1.l,3.6" ++
  ",0.b,0.6,0.b,1.6,b.l,9.h,1x.l,7.b,1.l,12.b,6.6,1.l,6.6,0.b,0.l,0.b,0.6,q.l,0.b,9.6,13.b,6.6,0.b," ++
  "3.6,7.l,0.6,7.l,0.b,a.6,19.b,f.6,2.l,0.b,h.l,20.b,5i.l,w.b,e.l,9.h,5.l,8.b,0.l,10.b,7.6,0.l,7.6," ++
  "0.b,e.l,9.h,n.l,t.b,1.l,l.6,0.l,d.6,20.l,6.b,0.l,1.b,0.l,11.b,5.6,2.l,0.6,0.l,1.6,0.l,6.6,0.b,0." ++
  "6,7.l,9.h,5.l,5.b,0.l,1.b,0.l,v.b,4.6,0.l,1.6,0.l,4.6,0.b,6.l,9.h,8l.l,i.b,3.6,8.l,1.6,0.b,0.6,c" ++
  ".b,0.l,x.b,6.6,2.l,4.6,c.l,9.h,0.6,2c.l,0.b,26.l,pl.b,2t.l,32.b,g.l,5f.b,217.l,2o.b,e.l,tr.b,f.7" ++
  ",0.6,5.b,e.6,9.l,32y.b,4.l,g6.b,5a0.l,t.b,h.6,9.h,1c5.l,fs.b,6.l,u.b,0.l,9.h,5.l,26.b,0.l,9.h,5." ++
  "l,t.b,1.l,4.6,a.l,1b.b,6.6,8.l,3.b,b.l,9.h,8.l,k.b,4.l,i.b,bz.l,18.b,2.l,9.h,5h.l,1r.b,3j.l,22.b" ++
  ",3.l,0.6,0.b,1i.6,6.l,3.6,c.b,1r.l,1.b,0.l,0.b,0.6,a.l,1.6,5qk.l,0.b,6wf.l,3.a,0.l,6.a,0.l,1.a,0" ++
  ".l,0.a,7y.l,2.a,1d.l,0.a,d.l,3.a,23b.l,2y.b,4.l,c.b,2.l,8.b,6.l,9.b,2.l,1.6,0.l,3.7,37v.l,9.h,ed" ++
  ".l,19.6,1.l,m.6,f1.l,4.6,2.l,5.6,7.7,7.6,1.l,6.6,t.l,3.6,43.l,2.6,ca.l,2c.b,0.l,1y.b,0.l,1.b,1.l" ++
  ",0.b,1.l,1.b,1.l,3.b,0.l,b.b,0.l,0.b,0.l,6.b,0.l,1s.b,0.l,3.b,1.l,7.b,0.l,6.b,0.l,r.b,0.l,3.b,0." ++
  "l,4.b,0.l,0.b,2.l,6.b,0.l,9f.b,1.l,o.b,0.l,o.b,0.l,u.b,0.l,o.b,0.l,u.b,0.l,o.b,0.l,u.b,0.l,o.b,0" ++
  ".l,u.b,0.l,o.b,0.l,7.b,1.l,1d.h,e7.l,1i.6,3.l,1d.6,7.l,0.6,d.l,0.6,l.l,4.6,0.l,e.6,un.l,u.b,5.l," ++
  "5.b,5w.l,6.6,0.l,g.6,1.l,6.6,0.l,1.6,0.l,4.6,4.l,1p.b,w.l,0.6,33.l,18.b,2.l,6.6,6.b,1.l,9.h,3.l," ++
  "0.b,8w.l,t.b,0.6,g.l,17.b,3.6,9.h,d1.l,r.b,3.6,9.h,5x.l,t.b,1.6,0.b,9.h,dg.l,6.b,0.l,3.b,0.l,1.b" ++
  ",0.l,e.b,0.l,5g.b,a.l,6.6,14.l,1v.b,6.6,0.b,3.l,9.h,x1.l,3.b,0.l,q.b,0.l,1.b,0.l,0.b,1.l,0.b,0.l" ++
  ",9.b,0.l,3.b,0.l,0.b,0.l,0.b,5.l,0.b,3.l,0.b,0.l,0.b,0.l,0.b,0.l,2.b,0.l,1.b,0.l,0.b,1.l,0.b,0.l" ++
  ",0.b,0.l,0.b,0.l,0.b,0.l,0.b,0.l,1.b,0.l,0.b,1.l,3.b,0.l,6.b,0.l,3.b,0.l,3.b,0.l,0.b,0.l,9.b,0.l" ++
  ",g.b,4.l,2.b,0.l,4.b,0.l,g.b,hf.l,p.b,5.l,p.b,5.l,p.b,2j.l,p.i,e2.l,4.6,1kf.l,9.h,gvly.l,0.7,t.l" ++
  ",2n.6,3j.l,6n.6,47bj.l"

/-- The runs of sentence break classes, packed. -/
def packedSentenceBreaks : String :=
  "8.e,0.b,0.6,1.b,0.2,h.e,0.b,0.c,0.1,3.e,2.1,1.e,1.9,0.0,0.e,9.8,0.9,3.e,0.c,0.e,p.d,0.1,0.e,0.1," ++
  "2.e,p.7,0.1,0.e,0.1,6.e,0.a,p.e,0.b,8.e,0.7,0.1,0.e,0.4,6.e,0.7,3.e,0.7,0.1,3.e,m.d,0.e,6.d,n.7," ++
  "0.e,7.7,0.d,0.7,0.d,0.7,0.d,0.7,0.d,0.7,0.d,0.7,0.d,0.7,0.d,0.7,0.d,0.7,0.d,0.7,0.d,0.7,0.d,0.7," ++
  "0.d,0.7,0.d,0.7,0.d,0.7,0.d,0.7,0.d,0.7,0.d,0.7,0.d,0.7,0.d,0.7,0.d,0.7,0.d,0.7,0.d,0.7,0.d,0.7," ++
  "0.d,0.7,0.d,0.7,0.d,0.7,0.d,0.7,0.d,1.7,0.d,0.7,0.d,0.7,0.d,0.7,0.d,0.7,0.d,0.7,0.d,0.7,0.d,0.7," ++
  "0.d,1.7,0.d,0.7,0.d,0.7,0.d,0.7,0.d,0.7,0.d,0.7,0.d,0.7,0.d,0.7,0.d,0.7,0.d,0.7,0.d,0.7,0.d,0.7," ++
  "0.d,0.7,0.d,0.7,0.d,0.7,0.d,0.7,0.d,0.7,0.d,0.7,0.d,0.7,0.d,0.7,0.d,0.7,0.d,0.7,0.d,0.7,0.d,0.7," ++
  "1.d,0.7,0.d,0.7,0.d,2.7,1.d,0.7,0.d,0.7,1.d,0.7,2.d,1.7,3.d,0.7,1.d,0.7,2.d,2.7,1.d,0.7,1.d,0.7," ++
  "0.d,0.7,0.d,0.7,1.d,0.7,0.d,1.7,0.d,0.7,1.d,0.7,2.d,0.7,0.d,0.7,1.d,1.7,0.5,0.d,2.7,3.5,1.d,0.7," ++
  "1.d,0.7,1.d,0.7,0.d,0.7,0.d,0.7,0.d,0.7,0.d,0.7,0.d,0.7,0.d,0.7,0.d,0.7,0.d,1.7,0.d,0.7,0.d,0.7," ++
  "0.d,0.7,0.d,0.7,0.d,0.7,0.d,0.7,0.d,0.7,0.d,0.7,0.d,1.7,1.d,0.7,0.d,0.7,2.d,0.7,0.d,0.7,0.d,0.7," ++
  "0.d,0.7,0.d,0.7,0.d,0.7,0.d,0.7,0.d,0.7,0.d,0.7,0.d,0.7,0.d,0.7,0.d,0.7,0.d,0.7,0.d,0.7,0.d,0.7," ++
  "0.d,0.7,0.d,0.7,0.d,0.7,0.d,0.7,0.d,0.7,0.d,0.7,0.d,0.7,0.d,0.7,0.d,0.7,0.d,0.7,0.d,0.7,0.d,0.7," ++
  "0.d,0.7,0.d,0.7,0.d,6.7,1.d,0.7,1.d,1.7,0.d,0.7,3.d,0.7,0.d,0.7,0.d,0.7,0.d,0.7,0.d,1w.7,0.5,z.7" ++
  ",6.5,1.7,3.e,b.5,d.e,4.7,6.e,0.5,0.e,0.5,g.e,33.3,0.d,0.7,0.d,0.7,0.5,0.e,0.d,0.7,1.e,3.7,0.e,0." ++
  "d,5.e,0.d,0.e,2.d,0.e,0.d,0.e,1.d,0.7,g.d,0.e,8.d,y.7,0.d,1.7,2.d,2.7,0.d,0.7,0.d,0.7,0.d,0.7,0." ++
  "d,0.7,0.d,0.7,0.d,0.7,0.d,0.7,0.d,0.7,0.d,0.7,0.d,0.7,0.d,0.7,0.d,4.7,0.d,0.7,0.e,0.d,0.7,1.d,1." ++
  "7,1e.d,1b.7,0.d,0.7,0.d,0.7,0.d,0.7,0.d,0.7,0.d,0.7,0.d,0.7,0.d,0.7,0.d,0.7,0.d,0.7,0.d,0.7,0.d," ++
  "0.7,0.d,0.7,0.d,0.7,0.d,0.7,0.d,0.7,0.d,0.7,0.d,0.7,0.e,6.3,0.d,0.7,0.d,0.7,0.d,0.7,0.d,0.7,0.d," ++
  "0.7,0.d,0.7,0.d,0.7,0.d,0.7,0.d,0.7,0.d,0.7,0.d,0.7,0.d,0.7,0.d,0.7,0.d,0.7,0.d,0.7,0.d,0.7,0.d," ++
  "0.7,0.d,0.7,0.d,0.7,0.d,0.7,0.d,0.7,0.d,0.7,0.d,0.7,0.d,0.7,0.d,0.7,0.d,0.7,0.d,0.7,1.d,0.7,0.d," ++
  "0.7,0.d,0.7,0.d,0.7,0.d,0.7,0.d,0.7,0.d,1.7,0.d,0.7,0.d,0.7,0.d,0.7,0.d,0.7,0.d,0.7,0.d,0.7,0.d," ++
  "0.7,0.d,0.7,0.d,0.7,0.d,0.7,0.d,0.7,0.d,0.7,0.d,0.7,0.d,0.7,0.d,0.7,0.d,0.7,0.d,0.7,0.d,0.7,0.d," ++
  "0.7,0.d,0.7,0.d,0.7,0.d,0.7,0.d,0.7,0.d,0.7,0.d,0.7,0.d,0.7,0.d,0.7,0.d,0.7,0.d,0.7,0.d,0.7,0.d," ++
  "0.7,0.d,0.7,0.d,0.7,0.d,0.7,0.d,0.7,0.d,0.7,0.d,0.7,0.d,0.7,0.d,0.7,0.d,0.7,0.d,0.7,0.d,0.7,0.d," ++
  "0.7,0.d,0.7,0.d,0.7,0.d,0.7,0.d,0.7,0.d,0.7,0.e,11.d,1.e,0.5,2.e,0.9,1.e,14.7,0.c,6.e,18.3,0.e,0" ++
  ".3,0.e,1.3,0.e,1.3,0.e,0.3,7.e,q.5,3.e,4.5,b.e,5.4,5.e,1.9,1.e,a.3,0.e,0.4,2.c,16.5,k.3,9.8,0.e," ++
  "1.8,0.e,1.5,0.3,2q.5,0.c,0.5,6.3,0.4,0.e,5.3,1.5,1.3,0.e,3.3,1.5,9.8,2.5,1.e,0.5,2.c,b.e,0.4,0.5" ++
  ",0.3,t.5,q.3,1.e,2g.5,a.3,0.5,d.e,9.8,w.5,8.3,1.5,1.e,0.9,0.c,0.5,1.e,0.3,1.e,l.5,3.3,0.5,8.3,0." ++
  "5,2.3,0.5,4.3,8.e,0.c,0.e,0.c,2.e,1.c,0.e,o.5,2.3,3.e,a.5,4.e,n.5,0.e,5.5,0.e,1.4,4.e,8.3,15.5,n" ++
  ".3,0.4,w.3,1h.5,2.3,0.5,h.3,0.5,6.3,9.5,1.3,1.c,9.8,0.e,f.5,2.3,0.e,7.5,1.e,1.5,1.e,l.5,0.e,6.5," ++
  "0.e,0.5,2.e,3.5,1.e,0.3,0.5,6.3,1.e,1.3,1.e,2.3,0.5,7.e,0.3,3.e,1.5,0.e,2.5,1.3,1.e,9.8,1.5,9.e," ++
  "0.5,0.e,0.3,1.e,2.3,0.e,5.5,3.e,1.5,1.e,l.5,0.e,6.5,0.e,1.5,0.e,1.5,0.e,1.5,1.e,0.3,0.e,4.3,3.e," ++
  "1.3,1.e,2.3,2.e,0.3,6.e,3.5,0.e,0.5,6.e,9.8,1.3,2.5,0.3,a.e,2.3,0.e,8.5,0.e,2.5,0.e,l.5,0.e,6.5," ++
  "0.e,1.5,0.e,4.5,1.e,0.3,0.5,7.3,0.e,2.3,0.e,2.3,1.e,0.5,e.e,1.5,1.3,1.e,9.8,8.e,0.5,5.3,0.e,2.3," ++
  "0.e,7.5,1.e,1.5,1.e,l.5,0.e,6.5,0.e,1.5,0.e,4.5,1.e,0.3,0.5,6.3,1.e,1.3,1.e,2.3,6.e,2.3,3.e,1.5," ++
  "0.e,2.5,1.3,1.e,9.8,0.e,0.5,f.e,0.3,0.5,0.e,5.5,2.e,2.5,0.e,3.5,2.e,1.5,0.e,0.5,0.e,1.5,2.e,1.5," ++
  "2.e,2.5,2.e,b.5,3.e,4.3,2.e,2.3,0.e,3.3,1.e,0.5,5.e,0.3,d.e,9.8,f.e,4.3,7.5,0.e,2.5,0.e,m.5,0.e," ++
  "f.5,1.e,0.3,0.5,6.3,0.e,2.3,0.e,3.3,6.e,1.3,0.e,2.5,1.e,0.5,1.e,1.5,1.3,1.e,9.8,f.e,0.5,2.3,0.e," ++
  "7.5,0.e,2.5,0.e,m.5,0.e,9.5,0.e,4.5,1.e,0.3,0.5,6.3,0.e,2.3,0.e,3.3,6.e,1.3,5.e,1.5,0.e,1.5,1.3," ++
  "1.e,9.8,0.e,1.5,0.3,b.e,3.3,8.5,0.e,2.5,0.e,14.5,1.3,0.5,6.3,0.e,2.3,0.e,3.3,0.5,4.e,2.5,0.3,6.e" ++
  ",2.5,1.3,1.e,9.8,9.e,5.5,0.e,2.3,0.e,h.5,2.e,n.5,0.e,8.5,0.e,0.5,1.e,6.5,2.e,0.3,3.e,5.3,0.e,0.3" ++
  ",0.e,7.3,5.e,9.8,1.e,1.3,c.e,1b.5,0.3,1.5,6.3,4.e,6.5,7.3,0.e,9.8,12.e,1.5,0.e,0.5,0.e,4.5,0.e,n" ++
  ".5,0.e,0.5,0.e,9.5,0.3,1.5,8.3,0.5,1.e,4.5,0.e,0.5,0.e,6.3,0.e,9.8,1.e,3.5,v.e,0.5,m.e,1.3,5.e,9" ++
  ".8,a.e,0.3,0.e,0.3,0.e,0.3,3.1,1.3,7.5,0.e,z.5,3.e,j.3,0.e,1.3,4.5,a.3,0.e,z.3,8.e,0.3,1k.e,16.5" ++
  ",j.3,0.5,9.8,1.c,3.e,5.5,3.3,3.5,2.3,0.5,2.3,1.5,6.3,2.5,3.3,c.5,b.3,0.5,0.3,9.8,3.3,1.e,11.d,0." ++
  "e,0.d,4.e,0.d,1.e,16.5,0.e,0.7,97.5,0.e,3.5,1.e,6.5,0.e,0.5,0.e,3.5,1.e,14.5,0.e,3.5,1.e,w.5,0.e" ++
  ",3.5,1.e,6.5,0.e,0.5,0.e,3.5,1.e,e.5,0.e,1k.5,0.e,3.5,1.e,1u.5,1.e,2.3,1.e,0.c,3.e,1.c,m.e,f.5,f" ++
  ".e,2d.d,1.e,5.7,2.e,h7.5,0.e,0.c,g.5,0.b,p.5,1.1,2.e,22.5,2.e,a.5,6.e,h.5,3.3,8.e,i.5,2.3,1.c,8." ++
  "e,h.5,1.3,b.e,c.5,0.e,2.5,0.e,1.3,b.e,1f.5,v.3,2.e,0.5,3.e,0.5,0.3,1.e,9.8,n.e,0.9,0.c,3.e,0.9,0" ++
  ".c,0.e,2.3,0.4,0.3,9.8,5.e,2g.5,6.e,4.5,1.3,x.5,0.3,0.5,4.e,1x.5,9.e,u.5,0.e,b.3,3.e,b.3,7.e,1.c" ++
  ",9.8,t.5,1.e,4.5,a.e,17.5,3.e,p.5,5.e,9.8,11.e,m.5,4.3,3.e,1g.5,9.3,0.e,s.3,1.e,0.3,9.8,5.e,9.8," ++
  "c.e,0.5,3.c,3.e,u.3,1c.e,4.3,1a.5,g.3,7.5,1.e,0.c,9.8,1.c,1.e,1.c,a.e,8.3,8.e,1.c,0.e,2.3,t.5,c." ++
  "3,1.5,9.8,17.5,d.3,b.e,z.5,j.3,2.e,1.c,2.e,9.8,2.e,2.5,9.8,z.5,1.c,8.7,0.d,0.7,4.e,16.5,1.e,2.5," ++
  "f.e,2.3,0.e,k.3,3.5,0.3,5.5,0.3,1.5,2.3,0.5,4.e,5b.7,1r.3,0.d,0.7,0.d,0.7,0.d,0.7,0.d,0.7,0.d,0." ++
  "7,0.d,0.7,0.d,0.7,0.d,0.7,0.d,0.7,0.d,0.7,0.d,0.7,0.d,0.7,0.d,0.7,0.d,0.7,0.d,0.7,0.d,0.7,0.d,0." ++
  "7,0.d,0.7,0.d,0.7,0.d,0.7,0.d,0.7,0.d,0.7,0.d,0.7,0.d,0.7,0.d,0.7,0.d,0.7,0.d,0.7,0.d,0.7,0.d,0." ++
  "7,0.d,0.7,0.d,0.7,0.d,0.7,0.d,0.7,0.d,0.7,0.d,0.7,0.d,0.7,0.d,0.7,0.d,0.7,0.d,0.7,0.d,0.7,0.d,0." ++
  "7,0.d,0.7,0.d,0.7,0.d,0.7,0.d,0.7,0.d,0.7,0.d,0.7,0.d,0.7,0.d,0.7,0.d,0.7,0.d,0.7,0.d,0.7,0.d,0." ++
  "7,0.d,0.7,0.d,0.7,0.d,0.7,0.d,0.7,0.d,0.7,0.d,0.7,0.d,0.7,0.d,0.7,0.d,0.7,0.d,0.7,0.d,0.7,0.d,0." ++
  "7,0.d,0.7,0.d,0.7,0.d,0.7,0.d,0.7,0.d,0.7,0.d,0.7,0.d,0.7,0.d,0.7,0.d,0.7,0.d,8.7,0.d,0.7,0.d,0." ++
  "7,0.d,0.7,0.d,0.7,0.d,0.7,0.d,0.7,0.d,0.7,0.d,0.7,0.d,0.7,0.d,0.7,0.d,0.7,0.d,0.7,0.d,0.7,0.d,0." ++
  "7,0.d,0.7,0.d,0.7,0.d,0.7,0.d,0.7,0.d,0.7,0.d,0.7,0.d,0.7,0.d,0.7,0.d,0.7,0.d,0.7,0.d,0.7,0.d,0." ++
  "7,0.d,0.7,0.d,0.7,0.d,0.7,0.d,0.7,0.d,0.7,0.d,0.7,0.d,0.7,0.d,0.7,0.d,0.7,0.d,0.7,0.d,0.7,0.d,0." ++
  "7,0.d,0.7,0.d,0.7,0.d,0.7,0.d,0.7,0.d,0.7,0.d,0.7,0.d,0.7,0.d,0.7,0.d,0.7,0.d,0.7,0.d,8.7,7.d,5." ++
  "7,1.e,5.d,1.e,7.7,7.d,7.7,7.d,5.7,1.e,5.d,1.e,7.7,0.e,0.d,0.e,0.d,0.e,0.d,0.e,0.d,7.7,7.d,d.7,1." ++
  "e,7.7,7.d,7.7,7.d,7.7,7.d,4.7,0.e,1.7,4.d,0.e,0.7,2.e,2.7,0.e,1.7,4.d,2.e,3.7,1.e,1.7,3.d,3.e,7." ++
  "7,4.d,4.e,2.7,0.e,1.7,4.d,2.e,a.b,0.4,1.3,1.4,2.e,1.9,2.e,7.1,3.e,0.0,2.e,1.a,4.4,0.b,8.e,1.1,0." ++
  "e,1.c,6.e,1.1,2.c,k.e,0.b,4.4,0.e,9.4,0.e,0.7,a.e,1.1,0.7,c.e,1.1,0.e,c.7,1e.e,w.3,g.e,0.d,3.e,0" ++
  ".d,1.e,0.7,2.d,1.7,2.d,0.7,0.e,0.d,2.e,4.d,5.e,0.d,0.e,0.d,0.e,0.d,0.e,3.d,0.e,0.7,3.d,0.7,3.5,0" ++
  ".7,1.e,1.7,1.d,4.e,0.d,3.7,3.e,0.7,g.e,f.d,f.7,2.5,0.d,0.7,3.5,am.e,3.1,s.e,1.1,ay.e,p.d,p.7,hc." ++
  "e,5.1,6.e,d.1,26.e,1.1,u.e,9.1,b6.e,l.1,1q.e,3.1,v.e,1.1,e9.e,1b.d,1b.7,0.d,0.7,2.d,1.7,0.d,0.7," ++
  "0.d,0.7,0.d,0.7,3.d,0.7,0.d,1.7,0.d,7.7,2.d,0.7,0.d,0.7,0.d,0.7,0.d,0.7,0.d,0.7,0.d,0.7,0.d,0.7," ++
  "0.d,0.7,0.d,0.7,0.d,0.7,0.d,0.7,0.d,0.7,0.d,0.7,0.d,0.7,0.d,0.7,0.d,0.7,0.d,0.7,0.d,0.7,0.d,0.7," ++
  "0.d,0.7,0.d,0.7,0.d,0.7,0.d,0.7,0.d,0.7,0.d,0.7,0.d,0.7,0.d,0.7,0.d,0.7,0.d,0.7,0.d,0.7,0.d,0.7," ++
  "0.d,0.7,0.d,0.7,0.d,0.7,0.d,0.7,0.d,0.7,0.d,0.7,0.d,0.7,0.d,0.7,0.d,0.7,0.d,0.7,0.d,0.7,0.d,0.7," ++
  "0.d,0.7,0.d,0.7,0.d,0.7,0.d,0.7,0.d,0.7,0.d,0.7,0.d,1.7,5.e,0.d,0.7,0.d,0.7,2.3,0.d,0.7,b.e,11.7" ++
  ",0.e,0.7,4.e,0.7,1.e,1j.5,6.e,0.5,e.e,0.3,m.5,8.e,6.5,0.e,6.5,0.e,6.5,0.e,6.5,0.e,6.5,0.e,6.5,0." ++
  "e,6.5,0.e,6.5,0.e,v.3,d.1,d.e,1.1,1.e,9.1,3.e,0.c,0.5,b.e,0.c,4.e,0.1,f.e,1.c,7.1,bm.e,0.b,0.9,0" ++
  ".c,1.e,2.5,9.1,1.e,7.1,0.e,2.1,0.e,8.5,5.3,0.e,4.5,1.e,4.5,3.e,2d.5,1.e,1.3,1.e,2.5,0.e,2h.5,0.e" ++
  ",3.5,4.e,16.5,0.e,2l.5,g.e,v.5,1b.e,f.5,e7.e,533.5,1r.e,h3g.5,1u.e,19.5,0.e,0.c,7g.5,0.e,1.c,f.5" ++
  ",9.8,1.5,j.e,0.d,0.7,0.d,0.7,0.d,0.7,0.d,0.7,0.d,0.7,0.d,0.7,0.d,0.7,0.d,0.7,0.d,0.7,0.d,0.7,0.d" ++
  ",0.7,0.d,0.7,0.d,0.7,0.d,0.7,0.d,0.7,0.d,0.7,0.d,0.7,0.d,0.7,0.d,0.7,0.d,0.7,0.d,0.7,0.d,0.7,0.d" ++
  ",0.7,0.5,3.3,0.e,9.3,0.e,0.5,0.d,0.7,0.d,0.7,0.d,0.7,0.d,0.7,0.d,0.7,0.d,0.7,0.d,0.7,0.d,0.7,0.d" ++
  ",0.7,0.d,0.7,0.d,0.7,0.d,0.7,0.d,0.7,0.d,2.7,1.3,27.5,1.3,0.e,0.c,2.e,0.c,u.e,8.5,1.e,0.d,0.7,0." ++
  "d,0.7,0.d,0.7,0.d,0.7,0.d,0.7,0.d,0.7,0.d,2.7,0.d,0.7,0.d,0.7,0.d,0.7,0.d,0.7,0.d,0.7,0.d,0.7,0." ++
  "d,0.7,0.d,0.7,0.d,0.7,0.d,0.7,0.d,0.7,0.d,0.7,0.d,0.7,0.d,0.7,0.d,0.7,0.d,0.7,0.d,0.7,0.d,0.7,0." ++
  "d,0.7,0.d,0.7,0.d,0.7,0.d,0.7,0.d,0.7,0.d,0.7,0.d,0.7,0.d,0.7,0.d,0.7,0.d,0.7,0.d,0.7,0.d,0.7,0." ++
  "d,9.7,0.d,0.7,0.d,0.7,1.d,0.7,0.d,0.7,0.d,0.7,0.d,0.7,0.d,0.7,0.5,1.e,0.d,0.7,0.d,0.7,0.5,0.d,0." ++
  "7,0.d,2.7,0.d,0.7,0.d,0.7,0.d,0.7,0.d,0.7,0.d,0.7,0.d,0.7,0.d,0.7,0.d,0.7,0.d,0.7,0.d,0.7,4.d,0." ++
  "7,4.d,0.7,0.d,0.7,0.d,0.7,0.d,0.7,0.d,0.7,0.d,0.7,0.d,0.7,0.d,0.7,3.d,0.7,0.d,0.7,1.d,0.7,1.e,0." ++
  "d,0.7,0.e,0.7,0.e,0.7,0.d,0.7,0.d,0.7,0.d,0.7,0.d,k.e,2.7,0.d,0.7,0.5,2.7,6.5,0.3,2.5,0.3,3.5,0." ++
  "3,m.5,4.3,3.e,0.3,i.e,1f.5,1.e,1.c,7.e,1.3,1d.5,h.3,7.e,1.c,9.8,5.e,h.3,5.5,2.e,0.5,0.e,1.5,0.3," ++
  "9.8,r.5,7.3,0.e,0.c,m.5,c.3,b.e,s.5,2.e,3.3,1a.5,d.3,6.e,1.c,4.e,0.5,9.8,5.e,4.5,0.3,9.5,9.8,4.5" ++
  ",0.e,14.5,d.3,8.e,2.5,0.3,7.5,1.3,1.e,9.8,2.e,2.c,m.5,2.e,0.5,2.3,1d.5,0.3,0.5,2.3,1.5,1.3,4.5,1" ++
  ".3,0.5,0.3,0.5,n.e,2.5,1.e,a.5,4.3,1.c,2.5,1.3,9.e,5.5,1.e,5.5,1.e,5.5,8.e,6.5,0.e,6.5,0.e,16.7," ++
  "0.e,d.7,5.e,27.7,y.5,7.3,0.c,1.3,1.e,9.8,5.e,8mb.5,b.e,m.5,3.e,1c.5,6ir.e,a5.5,1.e,2x.5,11.e,6.7" ++
  ",b.e,4.7,4.e,0.5,0.3,9.5,0.e,c.5,0.e,4.5,0.e,0.5,0.e,1.5,0.e,1.5,0.e,2z.5,w.e,a2.5,1.1,f.e,1r.5," ++
  "1.e,1h.5,13.e,b.5,3.e,f.3,1.9,0.e,0.9,2.e,1.1,6.e,f.3,0.e,1.9,1.e,f.1,1.e,1.1,6.e,1.9,0.0,1.e,0." ++
  "9,1.c,0.9,5.1,3.e,0.9,b.e,4.5,0.e,3q.5,1.e,0.4,0.e,0.c,5.e,1.1,1.e,1.9,0.0,0.e,9.8,0.9,3.e,0.c,0" ++
  ".e,p.d,0.1,0.e,0.1,2.e,p.7,0.1,0.e,0.1,0.e,1.1,0.c,1.1,0.9,0.e,1j.5,1.3,u.5,2.e,5.5,1.e,5.5,1.e," ++
  "5.5,1.e,2.5,r.e,2.4,3.e,b.5,0.e,p.5,0.e,i.5,0.e,1.5,0.e,e.5,1.e,d.5,x.e,3e.5,1w.e,1g.5,3r.e,0.3," ++
  "3l.e,s.5,2.e,1c.5,e.e,0.3,u.e,v.5,c.e,t.5,4.e,11.5,4.3,4.e,t.5,1.e,z.5,3.e,7.5,0.e,4.5,15.e,13.d" ++
  ",13.7,25.5,1.e,9.8,5.e,z.d,3.e,z.7,3.e,13.5,7.e,1f.5,b.e,a.d,0.e,e.d,0.e,6.d,0.e,1.d,0.e,a.7,0.e" ++
  ",e.7,0.e,6.7,0.e,1.7,2.e,1f.5,b.e,8m.5,8.e,l.5,9.e,7.5,n.e,0.7,1.5,2.7,0.e,15.7,0.e,8.7,1w.e,5.5" ++
  ",1.e,0.5,0.e,17.5,0.e,1.5,2.e,0.5,1.e,m.5,9.e,m.5,8.e,u.5,1s.e,i.5,0.e,1.5,9.e,l.5,9.e,p.5,1x.e," ++
  "1j.5,5.e,1.5,1r.e,0.5,2.3,0.e,1.3,4.e,3.3,3.5,0.e,2.5,0.e,s.5,1.e,2.3,3.e,0.3,l.e,1.c,7.e,s.5,2." ++
  "e,s.5,y.e,7.5,0.e,r.5,1.3,o.e,1h.5,9.e,l.5,9.e,i.5,c.e,h.5,31.e,20.5,1i.e,1e.d,c.e,1e.7,c.e,z.5," ++
  "3.3,7.e,9.8,5.e,9.8,5.5,l.d,2.e,4.3,0.e,0.5,l.7,6x.e,15.5,0.e,1.3,2.e,1.5,f.e,2.5,1i.e,3.3,s.5,9" ++
  ".e,0.5,7.e,l.5,a.3,3.e,4.c,l.e,h.5,3.3,3.c,11.e,k.5,q.e,m.5,8.e,2.3,1g.5,e.3,1.c,s.e,9.8,0.3,1.5" ++
  ",1.3,0.5,8.e,3.3,18.5,a.3,1.e,0.4,3.c,0.3,9.e,0.4,1.e,o.5,6.e,9.8,5.e,2.3,z.5,d.3,0.e,9.8,0.e,2." ++
  "c,0.5,1.3,0.5,7.e,y.5,0.3,1.e,0.5,8.e,2.3,1b.5,d.3,3.5,1.c,1.e,3.3,0.c,1.3,9.8,0.5,0.e,0.5,0.e,1" ++
  ".c,v.e,h.5,0.e,o.5,b.3,1.c,0.e,1.c,0.e,0.3,1.5,0.3,1p.e,6.5,0.e,0.5,0.e,3.5,0.e,e.5,0.e,9.5,0.c," ++
  "5.e,1a.5,b.3,4.e,9.8,5.e,3.3,0.e,7.5,1.e,1.5,1.e,l.5,0.e,6.5,0.e,1.5,0.e,4.5,0.e,1.3,0.5,6.3,1.e" ++
  ",1.3,1.e,2.3,1.e,0.5,5.e,0.3,4.e,4.5,1.3,1.e,6.3,2.e,4.3,a.e,9.5,0.e,0.5,1.e,0.5,0.e,11.5,0.e,0." ++
  "5,8.3,0.e,0.3,1.e,0.3,0.e,3.3,0.e,4.3,0.5,0.3,0.5,1.c,a.e,1.3,s.e,1g.5,h.3,3.5,1.c,2.e,9.8,3.e,0" ++
  ".3,2.5,t.e,1b.5,j.3,1.5,0.e,0.5,7.e,9.8,4l.e,1a.5,6.3,1.e,8.3,0.e,1.c,4.e,e.c,3.5,1.3,x.e,1b.5,g" ++
  ".3,1.c,0.e,0.5,a.e,9.8,11.e,16.5,c.3,0.5,6.e,9.8,5.e,j.8,r.e,q.5,1.e,e.3,3.e,9.8,1.e,2.c,0.e,6.5" ++
  ",54.e,17.5,e.3,2s.e,v.d,v.7,9.8,k.e,7.5,1.e,0.5,1.e,7.5,0.e,1.5,0.e,n.5,5.3,0.e,1.3,1.e,3.3,0.5," ++
  "0.3,0.5,1.3,0.c,0.e,0.c,8.e,9.8,1x.e,7.5,1.e,12.5,6.3,1.e,6.3,0.5,0.e,0.5,0.3,q.e,0.5,9.3,13.5,6" ++
  ".3,0.5,3.3,2.e,1.c,2.e,0.3,7.e,0.5,a.3,19.5,f.3,0.e,1.c,0.5,h.e,20.5,5i.e,w.5,e.e,9.8,5.e,8.5,0." ++
  "e,10.5,7.3,0.e,7.3,0.5,1.c,c.e,9.8,n.e,t.5,1.e,l.3,0.e,d.3,20.e,6.5,0.e,1.5,0.e,11.5,5.3,2.e,0.3" ++
  ",0.e,1.3,0.e,6.3,0.5,0.3,7.e,9.8,5.e,5.5,0.e,1.5,0.e,v.5,4.3,0.e,1.3,0.e,4.3,0.5,6.e,9.8,8l.e,i." ++
  "5,3.3,1.c,6.e,1.3,0.5,0.3,c.5,0.e,x.5,6.3,2.e,4.3,1.c,a.e,9.8,0.3,2c.e,0.5,26.e,pl.5,2t.e,32.5,g" ++
  ".e,5f.5,217.e,2o.5,e.e,tr.5,f.4,0.3,5.5,e.3,9.e,32y.5,4.e,g6.5,5a0.e,t.5,h.3,9.8,1c5.e,fs.5,6.e," ++
  "u.5,0.e,9.8,3.e,1.c,26.5,0.e,9.8,5.e,t.5,1.e,4.3,0.c,9.e,1b.5,6.3,1.c,6.e,3.5,0.c,a.e,9.8,8.e,k." ++
  "5,4.e,i.5,bz.e,18.5,0.e,1.c,9.8,5h.e,v.d,v.7,n.e,0.c,2u.e,22.5,3.e,0.3,0.5,1i.3,6.e,3.3,c.5,1r.e" ++
  ",1.5,0.e,0.5,0.3,a.e,1.3,d.e,4qf.5,7.e,yd.5,14.e,9.5,6w6.e,3.5,0.e,6.5,0.e,1.5,0.e,82.5,e.e,0.5," ++
  "s.e,2.5,1.e,0.5,d.e,3.5,7.e,az.5,1s3.e,2y.5,4.e,c.5,2.e,8.5,6.e,9.5,2.e,1.3,0.c,3.4,37v.e,9.8,ed" ++
  ".e,19.3,1.e,m.3,f1.e,4.3,2.e,5.3,7.4,7.3,1.e,6.3,t.e,3.3,43.e,2.3,ca.e,p.d,p.7,p.d,6.7,0.e,h.7,p" ++
  ".d,p.7,0.d,0.e,1.d,1.e,0.d,1.e,1.d,1.e,3.d,0.e,7.d,3.7,0.e,0.7,0.e,6.7,0.e,a.7,p.d,p.7,1.d,0.e,3" ++
  ".d,1.e,7.d,0.e,6.d,0.e,p.7,1.d,0.e,3.d,0.e,4.d,0.e,0.d,2.e,6.d,0.e,p.7,p.d,p.7,p.d,p.7,p.d,p.7,p" ++
  ".d,p.7,p.d,p.7,p.d,r.7,1.e,o.d,0.e,o.7,0.e,5.7,o.d,0.e,o.7,0.e,5.7,o.d,0.e,o.7,0.e,5.7,o.d,0.e,o" ++
  ".7,0.e,5.7,o.d,0.e,o.7,0.e,5.7,0.d,0.7,1.e,1d.8,e7.e,1i.3,3.e,1d.3,7.e,0.3,d.e,0.3,2.e,0.c,h.e,4" ++
  ".3,0.e,e.3,un.e,9.7,0.5,j.7,5.e,5.7,5w.e,6.3,0.e,g.3,1.e,6.3,0.e,1.3,0.e,4.3,4.e,1p.7,w.e,0.3,33" ++
  ".e,18.5,2.e,6.3,6.5,1.e,9.8,3.e,0.5,8w.e,t.5,0.3,g.e,17.5,3.3,9.8,d1.e,r.5,3.3,9.8,5x.e,t.5,1.3," ++
  "0.5,9.8,dg.e,6.5,0.e,3.5,0.e,1.5,0.e,e.5,0.e,5g.5,a.e,6.3,14.e,x.d,x.7,6.3,0.5,3.e,9.8,x1.e,3.5," ++
  "0.e,q.5,0.e,1.5,0.e,0.5,1.e,0.5,0.e,9.5,0.e,3.5,0.e,0.5,0.e,0.5,5.e,0.5,3.e,0.5,0.e,0.5,0.e,0.5," ++
  "0.e,2.5,0.e,1.5,0.e,0.5,1.e,0.5,0.e,0.5,0.e,0.5,0.e,0.5,0.e,0.5,0.e,1.5,0.e,0.5,1.e,3.5,0.e,6.5," ++
  "0.e,3.5,0.e,3.5,0.e,0.5,0.e,9.5,0.e,g.5,4.e,2.5,0.e,4.5,0.e,g.5,hf.e,p.d,5.e,p.d,5.e,p.d,yz.e,2." ++
  "1,12u.e,9.8,sl.e,wyn.5,v.e,37d.5,5.e,65.5,1.e,4g1.5,d.e,5rk.5,e.e,h9.5,1wh.e,f1.5,15t.e,3t6.5,4." ++
  "e,38f.5,f974.e,0.4,t.e,2n.3,3j.e,6n.3,47bj.e"

/-- The runs of ages: first and last code point, and the version's number. -/
def ageRuns : Array (Nat × Nat × Nat) := unpackRuns packedAges

/-- The runs of grapheme cluster break classes: first and last code point, and the class. -/
def graphemeBreakRuns : Array (Nat × Nat × Nat) := unpackRuns packedGraphemeBreaks

/-- The runs of word break classes: first and last code point, and the class. -/
def wordBreakRuns : Array (Nat × Nat × Nat) := unpackRuns packedWordBreaks

/-- The runs of sentence break classes: first and last code point, and the class. -/
def sentenceBreakRuns : Array (Nat × Nat × Nat) := unpackRuns packedSentenceBreaks

end Chatbot.Unicode
