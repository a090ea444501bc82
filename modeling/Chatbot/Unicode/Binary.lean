import Chatbot.Unicode.Packed

/-!
# Binary properties

The binary properties of code points (Unicode character database, version 16.0) that patterns can name, such as
`Alphabetic`, `White_Space` or `Emoji`. Each is a list of ranges packed as text: each range is
its distance from the end of the one before and its length less one, both in base 36.
-/

namespace Chatbot.Unicode

/-- The code points with the property `ASCII_Hex_Digit`, packed. -/
def packedASCIIHexDigit : String :=
  "1c.9,7.5,q.5"

/-- The code points with the property `Alphabetic`, packed. -/
def packedAlphabetic : String :=
  "1t.p,6.p,1b.0,a.0,4.0,5.m,1.u,1.cp,4.b,e.4,7.0,1.0,2e.0,16.4,1.1,2.3,1.0,6.0,1.2,1.0,1.j,1.2a,1." ++
  "3u,8.4l,1.11,2.0,6.14,13.d,1.0,1.1,1.1,1.0,8.q,4.3,t.a,5.1j,1.6,e.2t,1.7,4.7,4.2,a.2,2.0,g.1b,d." ++
  "2s,o.w,9.1,4.0,5.n,2.i,j.o,7.a,5.n,1.5,8.0,8.15,a.b,3.6,6.23,1.f,1.2,4.e,d.i,1.7,2.1,2.l,1.6,1.0" ++
  ",3.3,3.7,2.1,2.1,1.0,8.0,4.1,1.4,c.1,a.0,4.2,1.5,4.1,2.l,1.6,1.1,1.1,1.1,4.4,4.1,2.1,4.0,7.3,1.0" ++
  ",h.5,b.2,1.8,1.2,1.l,1.6,1.1,1.4,3.8,1.2,1.1,3.0,f.3,l.3,4.2,1.7,2.1,2.l,1.6,1.1,1.4,3.7,2.1,2.1" ++
  ",9.1,4.1,1.4,d.0,g.1,1.5,3.2,1.3,3.1,1.0,1.1,3.1,3.2,3.b,4.4,3.2,1.2,3.0,6.0,14.c,1.2,1.m,1.f,3." ++
  "7,1.2,1.2,8.1,1.2,2.0,2.3,s.3,1.7,1.2,1.m,1.9,1.4,3.7,1.2,1.2,8.1,6.1,1.3,d.2,c.c,1.2,1.14,2.7,1" ++
  ".2,1.2,1.0,5.3,7.4,m.5,1.2,1.h,3.n,1.8,1.0,2.6,8.5,1.0,1.7,i.1,d.1l,5.6,6.0,1f.1,1.0,1.4,1.n,1.0" ++
  ",1.i,1.2,2.4,1.0,6.0,e.3,w.0,1r.7,1.z,4.i,4.f,1.z,1v.1i,1.0,2.4,g.1r,a.3,2.11,1.0,5.0,2.16,1.98," ++
  "1.3,2.6,1.0,1.3,2.14,1.3,2.w,1.3,2.6,1.0,1.3,2.e,1.1k,1.3,2.1u,11.f,g.2d,2.5,3.h7,2.g,1.p,5.22,3" ++
  ".a,7.j,b.k,c.j,c.c,1.2,1.1,c.1f,2.i,e.0,4.0,1v.2g,7.16,5.1x,a.u,1.b,4.8,n.t,2.4,b.17,4.p,1i.r,4." ++
  "1q,2.j,1e.0,n.1,b.2,1d.1f,1.e,1.7,1f.15,2.3,a.17,1.a,e.1i,m.2,a.z,2.a,5.16,2.2,15.3,1.5,1.1,3.0," ++
  "5.5b,13.d,b.7p,2.5,2.11,2.5,2.7,1.0,1.0,1.0,1.u,2.1g,1.6,1.0,3.2,1.6,3.3,2.5,4.c,5.2,1.6,38.0,d." ++
  "0,g.c,2t.0,4.0,2.9,1.0,3.4,6.0,1.0,1.0,1.3,1.a,2.3,5.4,4.0,h.14,ml.1f,1ee.6c,6.3,3.1,c.11,1.0,5." ++
  "0,2.1j,7.0,g.m,9.6,1.6,1.6,1.6,1.6,1.6,1.6,1.6,1.v,1b.0,d1.2,p.8,7.4,2.4,4.2d,6.2,1.2h,1.3,5.16," ++
  "1.2l,h.v,1c.f,e8.533,1s.h3g,1v.19,2.7g,3.f,a.1,k.1a,5.7,3.34,13.8,2.2u,2.1u,2.1,1.0,1.7,l.j,1.w," ++
  "o.1f,c.1v,1.0,18.5,3.0,1.2,a.w,5.y,d.s,3.1e,1.b,f.0,g.f,a.4,1.1i,9.d,i.m,3.1w,1.0,1.0,o.2,2.f,2." ++
  "3,b.5,2.5,2.5,9.6,1.6,1.16,1.d,6.3e,l.8mb,c.m,4.1c,6is.a5,2.2x,12.6,c.4,5.b,1.c,1.4,1.0,1.1,1.1," ++
  "1.2z,x.a2,i.1r,2.1h,14.b,38.4,1.3q,10.p,6.p,b.2g,3.5,2.5,2.5,2.2,z.b,1.p,1.i,1.1,1.e,2.d,y.3e,1x" ++
  ".1g,7f.s,3.1c,1b.v,d.t,5.16,5.t,2.z,4.7,1.4,16.4d,i.z,4.z,4.13,8.1f,c.a,1.e,1.6,1.1,1.a,1.e,1.6," ++
  "1.1,3.1f,c.8m,9.l,a.7,o.5,1.15,1.8,1x.5,2.0,1.17,1.1,3.0,2.m,a.m,9.u,1t.i,1.1,a.l,a.p,1y.1j,6.1," ++
  "1s.3,1.1,5.7,1.2,1.s,16.s,3.s,z.7,1.r,r.1h,a.l,a.i,d.h,32.20,1j.1e,d.1e,d.13,y.r,3.0,5.m,6y.15,1" ++
  ".1,3.1,g.2,1j.0,3.s,a.0,8.l,16.h,1a.k,r.m,9.1x,17.4,a.1k,9.0,d.o,n.1e,h.3,8.y,3.0,9.1r,1.3,9.1,a" ++
  ".0,1.0,z.h,1.x,2.0,6.3,1q.6,1.0,1.3,1.e,1.9,7.1k,n.3,1.7,2.1,2.l,1.6,1.1,1.4,3.7,2.1,2.1,3.0,6.0" ++
  ",5.6,s.9,1.0,2.0,1.11,1.9,1.0,2.0,1.3,1.1,3.0,1.0,18.1t,1.2,1.3,k.2,u.1t,2.1,1.0,54.1h,2.6,p.5,y" ++
  ".1q,1.0,3.0,1n.1h,2.0,1z.q,2.d,l.6,55.1k,2v.1r,v.7,2.0,2.7,1.1,1.t,1.1,2.1,2.3,2l.7,2.19,2.5,1.0" ++
  ",1.1,r.1e,2.9,h.1z,5.0,i.20,5j.w,v.8,1.18,1.6,1.0,1d.t,2.l,1.d,21.6,1.1,1.17,3.0,1.1,1.2,1.0,2.1" ++
  ",o.5,1.1,1.10,1.1,1.3,1.0,93.m,9.g,1.14,3.2,33.0,27.pl,2u.32,h.5f,218.2o,f.tr,h.5,p.32y,5.g6,5a1" ++
  ".1a,1ch.fs,7.u,h.26,h.t,i.1b,g.3,v.k,5.i,c0.18,5v.1r,3k.22,4.1k,7.g,1s.1,1.0,c.1,e.4qf,8.yd,15.9" ++
  ",6w7.3,1.6,1.1,1.82,f.0,t.2,2.0,e.3,8.az,1s4.2y,5.c,3.8,7.9,4.0,4m9.2c,1.1y,1.1,2.0,2.1,2.3,1.b," ++
  "1.0,1.6,1.1s,1.3,2.7,1.6,1.r,1.3,1.4,1.0,3.6,1.9f,2.o,1.o,1.u,1.o,1.u,1.o,1.u,1.o,1.u,1.o,1.7,1f" ++
  "8.u,6.5,5x.6,1.g,2.6,1.1,1.4,5.1p,x.0,34.18,a.6,g.0,8x.t,i.17,dg.r,6c.t,2.0,dr.6,1.3,1.1,1.e,1.5" ++
  "g,1n.1v,3.0,3.0,xg.3,1.q,1.1,1.0,2.0,1.9,1.3,1.0,1.0,6.0,4.0,1.0,1.0,1.2,1.1,1.0,2.0,1.0,1.0,1.0" ++
  ",1.0,1.1,1.0,2.3,1.6,1.3,1.3,1.0,1.9,1.g,5.2,1.4,1.g,hg.p,6.p,6.p,2uu.wyn,w.37d,6.65,2.4g1,e.5rk" ++
  ",f.h9,1wi.f1,15u.3t6,5.38f"

/-- The code points with the property `Bidi_Control`, packed. -/
def packedBidiControl : String :=
  "17g.0,54h.1,q.4,1j.3"

/-- The code points with the property `Bidi_Mirrored`, packed. -/
def packedBidiMirrored : String :=
  "14.1,i.0,1.0,s.0,1.0,t.0,1.0,19.0,f.0,2v2.3,1gd.1,1wc.1,a.1,1i.1,e.1,4x.0,5c.3,3.5,3.0,3.1,3.3,1" ++
  ".3,1.0,1.0,4.8,5.0,1.h,5.3,9.1,1.0,1.7,2.u,2.3,5.0,9.1,2.i,5.1,9.4,2.1,4.n,2.f,8.3,k.1,7.1,u5.d," ++
  "22.0,2.3,1.1,1.2,5.3,5.2,3.d,b7.l,2.5,1.d,8.0,7.5,3.0,4.4,1.1,2.4,4.0,1.2,2.1,a.5,2.1,c.i,1.3,2." ++
  "0,1.0,2.0,1.3,5.1,6.2,o.1,b.1,4.3,1.1,2.1,4.16,2.7,1.13,5.0,1.0,3.4,5.2,4.0,3.4,1.0,74.0,eb.3,3." ++
  "1,1.1,e.1,2.9,17.7,bv.9,2.7,14ql.5,5.1,4i.1,i.0,1.0,s.0,1.0,t.0,1.0,1.1,1.1,16k7.0,1l.0,1l.0,1l." ++
  "0,1l.0"

/-- The code points with the property `Case_Ignorable`, packed. -/
def packedCaseIgnorable : String :=
  "13.0,6.0,b.0,z.0,1.0,1z.0,4.0,1.0,4.0,2.1,dz.5b,4.1,4.0,9.1,1.0,6z.6,5r.0,5.0,1d.18,1.0,1.1,1.1," ++
  "1.0,18.0,b.5,a.a,1.0,z.0,a.k,g.0,2t.7,1.9,1.3,x.0,1.0,u.q,2j.a,1m.a,4.0,2.0,o.n,17.2,18.0,7.1,5." ++
  "8,15.1l,1j.0,1.0,4.7,4.0,3.6,a.1,d.0,f.0,1m.0,4.3,8.0,k.1,q.0,2.1,1l.0,4.1,4.1,2.2,3.0,u.1,3.0,b" ++
  ".1,1l.0,4.4,1.1,4.0,k.1,m.5,1.0,1m.0,2.0,1.3,8.0,7.1,b.1,u.0,1p.0,c.0,1e.0,3.0,1j.0,1.2,5.2,1.3," ++
  "7.1,b.1,t.0,1m.0,2.0,6.0,5.1,k.1,s.1,1l.1,4.3,8.0,k.1,t.0,20.0,7.2,1.0,2i.0,2.6,b.8,2q.0,2.8,9.0" ++
  ",1.6,21.1,r.0,1.0,1.0,1j.d,1.4,1.1,5.a,1.z,9.0,2u.3,1.5,1.1,2.1,p.1,4.2,g.3,d.0,2.1,6.0,f.0,2m.0" ++
  ",gw.2,qa.2,t.1,u.1,u.1,1s.1,1.6,8.0,2.a,3.0,5.0,19.4,1f.0,1t.1,y.0,3a.2,4.1,9.0,6.2,63.1,2.0,1m." ++
  "0,1.6,1.0,1.0,2.7,6.9,2.0,13.0,8.u,1d.3,1c.0,1.4,1.0,5.0,14.8,c.1,w.3,2.1,1.2,1k.0,1.1,3.0,1.2,1" ++
  "m.7,2.1,1s.5,2a.2,1.c,1.6,4.0,6.0,3.1,1e.1q,d.0,y.2s,cd.0,1.2,b.2,d.2,d.2,d.1,c.4,8.1,a.0,2.0,2." ++
  "4,1d.4,1.9,1.0,d.0,g.c,1f.w,2a3.1,35.2,3h.0,f.0,2o.v,1b.0,d1.0,10.3,3.4,5.0,2l.5,2l.2,lxy.0,yq.5" ++
  ",7i.0,2q.3,1.9,1.0,s.3,28.1,e.x,26.0,n.2,2v.2,3.1,8.0,3.0,4.0,p.1,5.0,47.1,q.h,d.0,12.7,p.a,1a.2" ++
  ",1c.0,2.3,2.1,h.0,l.1,1u.5,2.1,2.1,c.0,8.0,z.0,b.0,1f.0,1.2,2.1,5.1,1.0,r.0,e.1,5.1,1.0,2s.4,9.2" ++
  ",3d.0,2.0,4.0,fn4.0,43.g,fx.f,3.0,c.f,y.0,2.0,4p.0,7.0,6.0,b.0,z.0,1.0,1b.0,19.1,1v.0,l.2,e9.0,6" ++
  "a.0,45.4,sl.5,1.15,1.8,g6.2,1.1,5.3,14.2,4.0,4l.1,fx.3,12.0,q.4,1.0,8r.1,27.3,1y.a,1d.3,3f.0,1i." ++
  "e,15.0,2.1,a.2,1d.3,2.1,2.0,4.0,a.0,1e.2,10.4,1.7,1q.0,c.1,1g.8,a.3,2.0,2n.2,2.0,1.1,6.0,2.0,4d." ++
  "0,3.7,l.1,1l.1,3.0,11.6,3.4,1y.5,d.0,1.0,1.0,e.1,2d.7,2.2,1.0,n.0,2c.5,1.0,4.1,1.1,6m.3,6.1,1.1," ++
  "r.1,2d.7,2.0,1.1,2y.0,1.0,2.5,1.0,2t.2,2.3,1.4,77.8,1.1,74.1,1.0,4.0,40.3,2.1,4.0,w.9,14.5,2.3,8" ++
  ".0,9.5,2.2,1a.c,1.1,ba.6,1.5,1.0,2a.l,2.6,1.1,1.1,3e.5,3.0,1.1,1.6,1.0,20.1,3.0,1.0,9n.1,b.1,1g." ++
  "4,5.0,1.0,n.0,445.g,6.e,8ug.b,3.2,1xc.4,1n.6,9.3,e4.2,14.1,de.0,1r.g,1s.1,1.1,cnf.3,1.6,1.1,2hq." ++
  "1,1.3,3mk.19,2.m,f4.2,9.f,2.6,u.3,44.2,1iz.1i,4.1d,8.0,e.0,m.4,1.e,11s.6,1.g,2.6,1.1,1.4,5.1p,x." ++
  "0,4g.d,a8.0,1p.3,e3.4,72.1,kg.6,31.7,23z.4,gx6p.0,u.2n,3k.6n"

/-- The code points with the property `Cased`, packed. -/
def packedCased : String :=
  "1t.p,6.p,1b.0,a.0,4.0,5.m,1.u,1.5e,1.3,4.5r,1.z,7.1,u.4,2o.0,16.3,2.1,2.3,1.0,6.0,1.2,1.0,1.j,1." ++
  "2a,1.3u,8.4l,1.11,9.14,26v.11,1.0,5.0,2.16,1.3,io.2d,2.5,1oi.a,5.16,2.2,1s.5b,1s.7p,2.5,2.11,2.5" ++
  ",2.7,1.0,1.0,1.0,1.u,2.1g,1.6,1.0,3.2,1.6,3.3,2.5,4.c,5.2,1.6,38.0,d.0,g.c,2t.0,4.0,2.9,1.0,3.4," ++
  "6.0,1.0,1.0,1.3,1.5,4.0,2.3,5.4,4.0,h.v,3.1,mp.1f,1ee.6c,6.3,3.1,c.11,1.0,5.0,nwy.19,i.t,3o.2t,3" ++
  ".3,1.1p,2.1,1.0,1.7,l.4,1.2,mt.16,1.d,6.27,fnk.6,c.4,sp.p,6.p,x1.27,2o.z,4.z,38.a,1.e,1.6,1.1,1." ++
  "a,1.e,1.6,1.1,cj.0,2.2,1.15,1.8,xx.1e,d.1e,2l.l,a.l,26y.1r,gv4.1r,k1s.2c,1.1y,1.1,2.0,2.1,2.3,1." ++
  "b,1.0,1.6,1.1s,1.3,2.7,1.6,1.r,1.3,1.4,1.0,3.6,1.9f,2.o,1.o,1.u,1.o,1.u,1.o,1.u,1.o,1.u,1.o,1.7," ++
  "1f8.9,1.j,6.5,79.1p,1oy.1v,1kc.p,6.p,6.p"

/-- The code points with the property `Changes_When_Casefolded`, packed. -/
def packedChangesWhenCasefolded : String :=
  "1t.p,2i.0,a.m,1.7,w.0,1.0,1.0,1.0,1.0,1.0,1.0,1.0,1.0,1.0,1.0,1.0,1.0,1.0,1.0,1.0,1.0,1.0,1.0,1." ++
  "0,1.0,1.0,1.0,1.0,1.0,1.0,1.0,1.0,2.0,1.0,1.0,1.0,1.0,1.0,1.0,1.0,1.1,1.0,1.0,1.0,1.0,1.0,1.0,1." ++
  "0,1.0,1.0,1.0,1.0,1.0,1.0,1.0,1.0,1.0,1.0,1.0,1.0,1.0,1.0,1.0,1.1,1.0,1.0,1.0,1.1,1.0,1.1,1.2,2." ++
  "3,1.1,1.2,3.1,1.1,1.0,1.0,1.1,1.0,2.0,1.1,1.2,1.0,1.1,3.0,7.1,1.1,1.1,1.0,1.0,1.0,1.0,1.0,1.0,1." ++
  "0,1.0,2.0,1.0,1.0,1.0,1.0,1.0,1.0,1.0,1.0,2.1,1.0,1.2,1.0,1.0,1.0,1.0,1.0,1.0,1.0,1.0,1.0,1.0,1." ++
  "0,1.0,1.0,1.0,1.0,1.0,1.0,1.0,1.0,1.0,1.0,1.0,1.0,1.0,1.0,1.0,1.0,1.0,1.0,7.1,1.1,2.0,1.3,1.0,1." ++
  "0,1.0,1.0,6u.0,16.0,1.0,3.0,8.0,6.0,1.2,1.0,1.1,1.g,1.8,m.0,c.2,3.1,1.0,1.0,1.0,1.0,1.0,1.0,1.0," ++
  "1.0,1.0,1.0,1.0,1.0,1.1,2.1,1.0,1.1,2.1e,1c.0,1.0,1.0,1.0,1.0,1.0,1.0,1.0,1.0,1.0,1.0,1.0,1.0,1." ++
  "0,1.0,1.0,1.0,9.0,1.0,1.0,1.0,1.0,1.0,1.0,1.0,1.0,1.0,1.0,1.0,1.0,1.0,1.0,1.0,1.0,1.0,1.0,1.0,1." ++
  "0,1.0,1.0,1.0,1.0,1.0,1.0,1.1,1.0,1.0,1.0,1.0,1.0,1.0,2.0,1.0,1.0,1.0,1.0,1.0,1.0,1.0,1.0,1.0,1." ++
  "0,1.0,1.0,1.0,1.0,1.0,1.0,1.0,1.0,1.0,1.0,1.0,1.0,1.0,1.0,1.0,1.0,1.0,1.0,1.0,1.0,1.0,1.0,1.0,1." ++
  "0,1.0,1.0,1.0,1.0,1.0,1.0,1.0,1.0,1.0,1.0,1.0,1.0,1.0,2.11,1c.0,26w.11,1.0,5.0,mi.5,1oi.9,6.16,2" ++
  ".2,8w.0,1.0,1.0,1.0,1.0,1.0,1.0,1.0,1.0,1.0,1.0,1.0,1.0,1.0,1.0,1.0,1.0,1.0,1.0,1.0,1.0,1.0,1.0," ++
  "1.0,1.0,1.0,1.0,1.0,1.0,1.0,1.0,1.0,1.0,1.0,1.0,1.0,1.0,1.0,1.0,1.0,1.0,1.0,1.0,1.0,1.0,1.0,1.0," ++
  "1.0,1.0,1.0,1.0,1.0,1.0,1.0,1.0,1.0,1.0,1.0,1.0,1.0,1.0,1.0,1.0,1.0,1.0,1.0,1.0,1.0,1.0,1.0,1.0," ++
  "1.0,1.0,1.0,1.0,5.1,2.0,1.0,1.0,1.0,1.0,1.0,1.0,1.0,1.0,1.0,1.0,1.0,1.0,1.0,1.0,1.0,1.0,1.0,1.0," ++
  "1.0,1.0,1.0,1.0,1.0,1.0,1.0,1.0,1.0,1.0,1.0,1.0,1.0,1.0,1.0,1.0,1.0,1.0,1.0,1.0,1.0,1.0,1.0,1.0," ++
  "1.0,1.0,1.0,1.0,1.0,1.0,9.7,8.5,a.7,8.7,8.5,b.0,1.0,1.0,1.0,8.7,g.1b,2.2,2.5,5.2,2.5,b.3,c.4,5.2" ++
  ",2.5,89.0,3.1,6.0,19.f,j.0,mq.p,1f4.1b,1c.0,1.2,2.0,1.0,1.0,1.3,1.0,2.0,8.2,1.0,1.0,1.0,1.0,1.0," ++
  "1.0,1.0,1.0,1.0,1.0,1.0,1.0,1.0,1.0,1.0,1.0,1.0,1.0,1.0,1.0,1.0,1.0,1.0,1.0,1.0,1.0,1.0,1.0,1.0," ++
  "1.0,1.0,1.0,1.0,1.0,1.0,1.0,1.0,1.0,1.0,1.0,1.0,1.0,1.0,1.0,1.0,1.0,1.0,1.0,1.0,8.0,1.0,4.0,nyl." ++
  "0,1.0,1.0,1.0,1.0,1.0,1.0,1.0,1.0,1.0,1.0,1.0,1.0,1.0,1.0,1.0,1.0,1.0,1.0,1.0,1.0,1.0,1.0,j.0,1." ++
  "0,1.0,1.0,1.0,1.0,1.0,1.0,1.0,1.0,1.0,1.0,1.0,1.0,3r.0,1.0,1.0,1.0,1.0,1.0,1.0,3.0,1.0,1.0,1.0,1" ++
  ".0,1.0,1.0,1.0,1.0,1.0,1.0,1.0,1.0,1.0,1.0,1.0,1.0,1.0,1.0,1.0,1.0,1.0,1.0,1.0,1.0,1.0,1.0,1.0,1" ++
  ".0,1.0,1.0,a.0,1.0,1.1,1.0,1.0,1.0,1.0,4.0,1.0,2.0,1.0,3.0,1.0,1.0,1.0,1.0,1.0,1.0,1.0,1.0,1.0,1" ++
  ".4,1.4,1.0,1.0,1.0,1.0,1.0,1.0,1.0,1.3,1.0,1.1,3.0,5.0,1.0,1.0,1.0,o.0,oq.27,fnk.6,c.4,sp.p,xx.1" ++
  "3,3s.z,4c.a,1.e,1.6,1.1,1d6.1e,4d.l,27u.v,gw0.v,o80.x"

/-- The code points with the property `Changes_When_Casemapped`, packed. -/
def packedChangesWhenCasemapped : String :=
  "1t.p,6.p,1m.0,a.m,1.u,1.1r,1.2b,1.r,2.d,2.1,1.0,4.2k,1.h,6.q,1.1,1.0,1.1,3.1,1.3,1.4,2.0,1.1,2.0" ++
  ",7.0,2.0,1.1,3.5,5.0,a.1,4m.0,16.3,2.1,3.2,1.0,6.0,1.2,1.0,1.j,1.1a,3.w,1.4,1.3o,8.4l,1.11,a.12," ++
  "26w.11,1.0,5.0,2.16,2.2,io.2d,2.5,1oi.a,5.16,2.2,55.0,3.0,g.0,35.4b,2.0,1.39,2.5,2.11,2.5,2.7,1." ++
  "0,1.0,1.0,1.u,2.1g,1.6,1.0,3.2,1.6,3.3,2.5,4.c,5.2,1.6,89.0,3.1,6.0,r.0,h.v,3.1,mp.1f,1ee.34,1.1" ++
  ",1.1,7.2t,7.3,3.1,c.11,1.0,5.0,nwy.19,i.r,3q.d,2.1p,9.e,3.2,2.4,1.o,1.t,2.1,4.6,o.1,nw.0,s.27,fn" ++
  "k.6,c.4,sp.p,6.p,x1.27,2o.z,4.z,38.a,1.e,1.6,1.1,1.a,1.e,1.6,1.1,1c3.1e,d.1e,2l.l,a.l,26y.1r,gv4" ++
  ".1r,o74.1v"

/-- The code points with the property `Changes_When_Lowercased`, packed. -/
def packedChangesWhenLowercased : String :=
  "1t.p,2t.m,1.6,x.0,1.0,1.0,1.0,1.0,1.0,1.0,1.0,1.0,1.0,1.0,1.0,1.0,1.0,1.0,1.0,1.0,1.0,1.0,1.0,1." ++
  "0,1.0,1.0,1.0,1.0,1.0,1.0,1.0,2.0,1.0,1.0,1.0,1.0,1.0,1.0,1.0,2.0,1.0,1.0,1.0,1.0,1.0,1.0,1.0,1." ++
  "0,1.0,1.0,1.0,1.0,1.0,1.0,1.0,1.0,1.0,1.0,1.0,1.0,1.0,1.0,1.1,1.0,1.0,3.1,1.0,1.1,1.2,2.3,1.1,1." ++
  "2,3.1,1.1,1.0,1.0,1.1,1.0,2.0,1.1,1.2,1.0,1.1,3.0,7.1,1.1,1.1,1.0,1.0,1.0,1.0,1.0,1.0,1.0,1.0,2." ++
  "0,1.0,1.0,1.0,1.0,1.0,1.0,1.0,1.0,2.1,1.0,1.2,1.0,1.0,1.0,1.0,1.0,1.0,1.0,1.0,1.0,1.0,1.0,1.0,1." ++
  "0,1.0,1.0,1.0,1.0,1.0,1.0,1.0,1.0,1.0,1.0,1.0,1.0,1.0,1.0,1.0,1.0,7.1,1.1,2.0,1.3,1.0,1.0,1.0,1." ++
  "0,81.0,1.0,3.0,8.0,6.0,1.2,1.0,1.1,1.g,1.8,z.0,8.0,1.0,1.0,1.0,1.0,1.0,1.0,1.0,1.0,1.0,1.0,1.0,5" ++
  ".0,2.0,1.1,2.1e,1c.0,1.0,1.0,1.0,1.0,1.0,1.0,1.0,1.0,1.0,1.0,1.0,1.0,1.0,1.0,1.0,1.0,9.0,1.0,1.0" ++
  ",1.0,1.0,1.0,1.0,1.0,1.0,1.0,1.0,1.0,1.0,1.0,1.0,1.0,1.0,1.0,1.0,1.0,1.0,1.0,1.0,1.0,1.0,1.0,1.0" ++
  ",1.1,1.0,1.0,1.0,1.0,1.0,1.0,2.0,1.0,1.0,1.0,1.0,1.0,1.0,1.0,1.0,1.0,1.0,1.0,1.0,1.0,1.0,1.0,1.0" ++
  ",1.0,1.0,1.0,1.0,1.0,1.0,1.0,1.0,1.0,1.0,1.0,1.0,1.0,1.0,1.0,1.0,1.0,1.0,1.0,1.0,1.0,1.0,1.0,1.0" ++
  ",1.0,1.0,1.0,1.0,1.0,1.0,1.0,2.11,289.11,1.0,5.0,k2.2d,1oz.0,6.16,2.2,8w.0,1.0,1.0,1.0,1.0,1.0,1" ++
  ".0,1.0,1.0,1.0,1.0,1.0,1.0,1.0,1.0,1.0,1.0,1.0,1.0,1.0,1.0,1.0,1.0,1.0,1.0,1.0,1.0,1.0,1.0,1.0,1" ++
  ".0,1.0,1.0,1.0,1.0,1.0,1.0,1.0,1.0,1.0,1.0,1.0,1.0,1.0,1.0,1.0,1.0,1.0,1.0,1.0,1.0,1.0,1.0,1.0,1" ++
  ".0,1.0,1.0,1.0,1.0,1.0,1.0,1.0,1.0,1.0,1.0,1.0,1.0,1.0,1.0,1.0,1.0,1.0,1.0,1.0,1.0,9.0,1.0,1.0,1" ++
  ".0,1.0,1.0,1.0,1.0,1.0,1.0,1.0,1.0,1.0,1.0,1.0,1.0,1.0,1.0,1.0,1.0,1.0,1.0,1.0,1.0,1.0,1.0,1.0,1" ++
  ".0,1.0,1.0,1.0,1.0,1.0,1.0,1.0,1.0,1.0,1.0,1.0,1.0,1.0,1.0,1.0,1.0,1.0,1.0,1.0,1.0,1.0,9.7,8.5,a" ++
  ".7,8.7,8.5,b.0,1.0,1.0,1.0,8.7,o.7,8.7,8.7,8.4,b.4,b.3,c.4,b.4,89.0,3.1,6.0,19.f,j.0,mq.p,1f4.1b" ++
  ",1c.0,1.2,2.0,1.0,1.0,1.3,1.0,2.0,8.2,1.0,1.0,1.0,1.0,1.0,1.0,1.0,1.0,1.0,1.0,1.0,1.0,1.0,1.0,1." ++
  "0,1.0,1.0,1.0,1.0,1.0,1.0,1.0,1.0,1.0,1.0,1.0,1.0,1.0,1.0,1.0,1.0,1.0,1.0,1.0,1.0,1.0,1.0,1.0,1." ++
  "0,1.0,1.0,1.0,1.0,1.0,1.0,1.0,1.0,1.0,1.0,8.0,1.0,4.0,nyl.0,1.0,1.0,1.0,1.0,1.0,1.0,1.0,1.0,1.0," ++
  "1.0,1.0,1.0,1.0,1.0,1.0,1.0,1.0,1.0,1.0,1.0,1.0,1.0,j.0,1.0,1.0,1.0,1.0,1.0,1.0,1.0,1.0,1.0,1.0," ++
  "1.0,1.0,1.0,3r.0,1.0,1.0,1.0,1.0,1.0,1.0,3.0,1.0,1.0,1.0,1.0,1.0,1.0,1.0,1.0,1.0,1.0,1.0,1.0,1.0" ++
  ",1.0,1.0,1.0,1.0,1.0,1.0,1.0,1.0,1.0,1.0,1.0,1.0,1.0,1.0,1.0,1.0,1.0,a.0,1.0,1.1,1.0,1.0,1.0,1.0" ++
  ",4.0,1.0,2.0,1.0,3.0,1.0,1.0,1.0,1.0,1.0,1.0,1.0,1.0,1.0,1.4,1.4,1.0,1.0,1.0,1.0,1.0,1.0,1.0,1.3" ++
  ",1.0,1.1,3.0,5.0,1.0,1.0,1.0,o.0,h7v.p,xx.13,3s.z,4c.a,1.e,1.6,1.1,1d6.1e,4d.l,27u.v,gw0.v,o80.x"

/-- The code points with the property `Changes_When_Titlecased`, packed. -/
def packedChangesWhenTitlecased : String :=
  "2p.p,1m.0,15.n,1.7,1.0,1.0,1.0,1.0,1.0,1.0,1.0,1.0,1.0,1.0,1.0,1.0,1.0,1.0,1.0,1.0,1.0,1.0,1.0,1" ++
  ".0,1.0,1.0,1.0,1.0,1.0,1.0,1.0,1.0,2.0,1.0,1.0,1.0,1.0,1.0,1.0,1.1,1.0,1.0,1.0,1.0,1.0,1.0,1.0,1" ++
  ".0,1.0,1.0,1.0,1.0,1.0,1.0,1.0,1.0,1.0,1.0,1.0,1.0,1.0,1.0,1.0,2.0,1.0,1.2,2.0,1.0,2.0,3.0,5.0,2" ++
  ".0,3.2,2.0,2.0,1.0,1.0,2.0,4.0,2.0,3.0,1.0,2.0,3.0,1.0,4.0,1.1,1.1,1.0,1.0,1.0,1.0,1.0,1.0,1.0,1" ++
  ".0,1.1,1.0,1.0,1.0,1.0,1.0,1.0,1.0,1.0,1.2,1.0,1.0,3.0,1.0,1.0,1.0,1.0,1.0,1.0,1.0,1.0,1.0,1.0,1" ++
  ".0,1.0,1.0,1.0,1.0,1.0,1.0,1.0,1.0,3.0,1.0,1.0,1.0,1.0,1.0,1.0,1.0,1.0,8.0,2.1,1.0,4.0,1.0,1.0,1" ++
  ".0,1.5,1.1,1.0,1.1,3.1,1.3,1.4,2.0,1.1,2.0,7.0,2.0,1.1,3.5,5.0,a.1,4m.0,17.0,1.0,3.0,3.2,i.0,r.y" ++
  ",1.1,3.2,1.0,1.0,1.0,1.0,1.0,1.0,1.0,1.0,1.0,1.0,1.0,1.4,1.0,2.0,2.0,1g.1b,1.0,1.0,1.0,1.0,1.0,1" ++
  ".0,1.0,1.0,1.0,1.0,1.0,1.0,1.0,1.0,1.0,1.0,1.0,9.0,1.0,1.0,1.0,1.0,1.0,1.0,1.0,1.0,1.0,1.0,1.0,1" ++
  ".0,1.0,1.0,1.0,1.0,1.0,1.0,1.0,1.0,1.0,1.0,1.0,1.0,1.0,1.0,2.0,1.0,1.0,1.0,1.0,1.0,1.1,1.0,1.0,1" ++
  ".0,1.0,1.0,1.0,1.0,1.0,1.0,1.0,1.0,1.0,1.0,1.0,1.0,1.0,1.0,1.0,1.0,1.0,1.0,1.0,1.0,1.0,1.0,1.0,1" ++
  ".0,1.0,1.0,1.0,1.0,1.0,1.0,1.0,1.0,1.0,1.0,1.0,1.0,1.0,1.0,1.0,1.0,1.0,1.0,1.0,1.0,1.0,1d.12,2uo" ++
  ".5,1oi.8,1.0,6m.0,3.0,g.0,36.0,1.0,1.0,1.0,1.0,1.0,1.0,1.0,1.0,1.0,1.0,1.0,1.0,1.0,1.0,1.0,1.0,1" ++
  ".0,1.0,1.0,1.0,1.0,1.0,1.0,1.0,1.0,1.0,1.0,1.0,1.0,1.0,1.0,1.0,1.0,1.0,1.0,1.0,1.0,1.0,1.0,1.0,1" ++
  ".0,1.0,1.0,1.0,1.0,1.0,1.0,1.0,1.0,1.0,1.0,1.0,1.0,1.0,1.0,1.0,1.0,1.0,1.0,1.0,1.0,1.0,1.0,1.0,1" ++
  ".0,1.0,1.0,1.0,1.0,1.0,1.0,1.0,1.0,1.6,5.0,1.0,1.0,1.0,1.0,1.0,1.0,1.0,1.0,1.0,1.0,1.0,1.0,1.0,1" ++
  ".0,1.0,1.0,1.0,1.0,1.0,1.0,1.0,1.0,1.0,1.0,1.0,1.0,1.0,1.0,1.0,1.0,1.0,1.0,1.0,1.0,1.0,1.0,1.0,1" ++
  ".0,1.0,1.0,1.0,1.0,1.0,1.0,1.0,1.0,1.8,8.5,a.7,8.7,8.5,a.7,8.7,8.d,2.7,8.7,8.7,8.4,1.1,6.0,3.2,1" ++
  ".1,8.3,2.1,8.7,a.2,1.1,9i.0,x.f,4.0,nf.p,1fq.1b,1.0,3.1,1.0,1.0,1.0,6.0,2.0,a.0,1.0,1.0,1.0,1.0," ++
  "1.0,1.0,1.0,1.0,1.0,1.0,1.0,1.0,1.0,1.0,1.0,1.0,1.0,1.0,1.0,1.0,1.0,1.0,1.0,1.0,1.0,1.0,1.0,1.0," ++
  "1.0,1.0,1.0,1.0,1.0,1.0,1.0,1.0,1.0,1.0,1.0,1.0,1.0,1.0,1.0,1.0,1.0,1.0,1.0,1.0,1.0,8.0,1.0,4.0," ++
  "c.11,1.0,5.0,nwz.0,1.0,1.0,1.0,1.0,1.0,1.0,1.0,1.0,1.0,1.0,1.0,1.0,1.0,1.0,1.0,1.0,1.0,1.0,1.0,1" ++
  ".0,1.0,1.0,j.0,1.0,1.0,1.0,1.0,1.0,1.0,1.0,1.0,1.0,1.0,1.0,1.0,1.0,3r.0,1.0,1.0,1.0,1.0,1.0,1.0," ++
  "3.0,1.0,1.0,1.0,1.0,1.0,1.0,1.0,1.0,1.0,1.0,1.0,1.0,1.0,1.0,1.0,1.0,1.0,1.0,1.0,1.0,1.0,1.0,1.0," ++
  "1.0,1.0,1.0,1.0,1.0,1.0,1.0,a.0,1.0,2.0,1.0,1.0,1.0,1.0,4.0,4.0,1.1,2.0,1.0,1.0,1.0,1.0,1.0,1.0," ++
  "1.0,1.0,1.0,b.0,1.0,1.0,1.0,1.0,1.0,1.0,1.0,4.0,1.0,2.0,3.0,5.0,1.0,1.0,q.0,nw.0,s.27,fnk.6,c.4," ++
  "tl.p,y5.13,3s.z,4b.a,1.e,1.6,1.1,1dv.1e,3h.l,27u.v,gw0.v,o82.x"

/-- The code points with the property `Changes_When_Uppercased`, packed. -/
def packedChangesWhenUppercased : String :=
  "2p.p,1m.0,15.n,1.7,1.0,1.0,1.0,1.0,1.0,1.0,1.0,1.0,1.0,1.0,1.0,1.0,1.0,1.0,1.0,1.0,1.0,1.0,1.0,1" ++
  ".0,1.0,1.0,1.0,1.0,1.0,1.0,1.0,1.0,2.0,1.0,1.0,1.0,1.0,1.0,1.0,1.1,1.0,1.0,1.0,1.0,1.0,1.0,1.0,1" ++
  ".0,1.0,1.0,1.0,1.0,1.0,1.0,1.0,1.0,1.0,1.0,1.0,1.0,1.0,1.0,1.0,2.0,1.0,1.2,2.0,1.0,2.0,3.0,5.0,2" ++
  ".0,3.2,2.0,2.0,1.0,1.0,2.0,4.0,2.0,3.0,1.0,2.0,3.0,1.0,5.1,1.1,1.1,1.0,1.0,1.0,1.0,1.0,1.0,1.0,1" ++
  ".1,1.0,1.0,1.0,1.0,1.0,1.0,1.0,1.0,1.1,1.1,1.0,3.0,1.0,1.0,1.0,1.0,1.0,1.0,1.0,1.0,1.0,1.0,1.0,1" ++
  ".0,1.0,1.0,1.0,1.0,1.0,1.0,1.0,3.0,1.0,1.0,1.0,1.0,1.0,1.0,1.0,1.0,8.0,2.1,1.0,4.0,1.0,1.0,1.0,1" ++
  ".5,1.1,1.0,1.1,3.1,1.3,1.4,2.0,1.1,2.0,7.0,2.0,1.1,3.5,5.0,a.1,4m.0,17.0,1.0,3.0,3.2,i.0,r.y,1.1" ++
  ",3.2,1.0,1.0,1.0,1.0,1.0,1.0,1.0,1.0,1.0,1.0,1.0,1.4,1.0,2.0,2.0,1g.1b,1.0,1.0,1.0,1.0,1.0,1.0,1" ++
  ".0,1.0,1.0,1.0,1.0,1.0,1.0,1.0,1.0,1.0,1.0,9.0,1.0,1.0,1.0,1.0,1.0,1.0,1.0,1.0,1.0,1.0,1.0,1.0,1" ++
  ".0,1.0,1.0,1.0,1.0,1.0,1.0,1.0,1.0,1.0,1.0,1.0,1.0,1.0,2.0,1.0,1.0,1.0,1.0,1.0,1.1,1.0,1.0,1.0,1" ++
  ".0,1.0,1.0,1.0,1.0,1.0,1.0,1.0,1.0,1.0,1.0,1.0,1.0,1.0,1.0,1.0,1.0,1.0,1.0,1.0,1.0,1.0,1.0,1.0,1" ++
  ".0,1.0,1.0,1.0,1.0,1.0,1.0,1.0,1.0,1.0,1.0,1.0,1.0,1.0,1.0,1.0,1.0,1.0,1.0,1.0,1.0,1d.12,288.16," ++
  "2.2,l4.5,1oi.8,1.0,6m.0,3.0,g.0,36.0,1.0,1.0,1.0,1.0,1.0,1.0,1.0,1.0,1.0,1.0,1.0,1.0,1.0,1.0,1.0" ++
  ",1.0,1.0,1.0,1.0,1.0,1.0,1.0,1.0,1.0,1.0,1.0,1.0,1.0,1.0,1.0,1.0,1.0,1.0,1.0,1.0,1.0,1.0,1.0,1.0" ++
  ",1.0,1.0,1.0,1.0,1.0,1.0,1.0,1.0,1.0,1.0,1.0,1.0,1.0,1.0,1.0,1.0,1.0,1.0,1.0,1.0,1.0,1.0,1.0,1.0" ++
  ",1.0,1.0,1.0,1.0,1.0,1.0,1.0,1.0,1.0,1.0,1.6,5.0,1.0,1.0,1.0,1.0,1.0,1.0,1.0,1.0,1.0,1.0,1.0,1.0" ++
  ",1.0,1.0,1.0,1.0,1.0,1.0,1.0,1.0,1.0,1.0,1.0,1.0,1.0,1.0,1.0,1.0,1.0,1.0,1.0,1.0,1.0,1.0,1.0,1.0" ++
  ",1.0,1.0,1.0,1.0,1.0,1.0,1.0,1.0,1.0,1.0,1.8,8.5,a.7,8.7,8.5,a.7,8.7,8.d,2.1g,1.1,4.0,1.0,3.2,1." ++
  "1,4.0,3.3,2.1,8.7,a.2,1.1,4.0,9d.0,x.f,4.0,nf.p,1fq.1b,1.0,3.1,1.0,1.0,1.0,6.0,2.0,a.0,1.0,1.0,1" ++
  ".0,1.0,1.0,1.0,1.0,1.0,1.0,1.0,1.0,1.0,1.0,1.0,1.0,1.0,1.0,1.0,1.0,1.0,1.0,1.0,1.0,1.0,1.0,1.0,1" ++
  ".0,1.0,1.0,1.0,1.0,1.0,1.0,1.0,1.0,1.0,1.0,1.0,1.0,1.0,1.0,1.0,1.0,1.0,1.0,1.0,1.0,1.0,1.0,8.0,1" ++
  ".0,4.0,c.11,1.0,5.0,nwz.0,1.0,1.0,1.0,1.0,1.0,1.0,1.0,1.0,1.0,1.0,1.0,1.0,1.0,1.0,1.0,1.0,1.0,1." ++
  "0,1.0,1.0,1.0,1.0,j.0,1.0,1.0,1.0,1.0,1.0,1.0,1.0,1.0,1.0,1.0,1.0,1.0,1.0,3r.0,1.0,1.0,1.0,1.0,1" ++
  ".0,1.0,3.0,1.0,1.0,1.0,1.0,1.0,1.0,1.0,1.0,1.0,1.0,1.0,1.0,1.0,1.0,1.0,1.0,1.0,1.0,1.0,1.0,1.0,1" ++
  ".0,1.0,1.0,1.0,1.0,1.0,1.0,1.0,1.0,a.0,1.0,2.0,1.0,1.0,1.0,1.0,4.0,4.0,1.1,2.0,1.0,1.0,1.0,1.0,1" ++
  ".0,1.0,1.0,1.0,1.0,b.0,1.0,1.0,1.0,1.0,1.0,1.0,1.0,4.0,1.0,2.0,3.0,5.0,1.0,1.0,q.0,nw.0,s.27,fnk" ++
  ".6,c.4,tl.p,y5.13,3s.z,4b.a,1.e,1.6,1.1,1dv.1e,3h.l,27u.v,gw0.v,o82.x"

/-- The code points with the property `Dash`, packed. -/
def packedDash : String :=
  "19.0,124.0,1f.0,2td.0,sl.0,1l5.5,1p.0,13.0,f.0,au.0,2dg.0,2.0,v.1,4.0,s.0,ce.0,j.0,33.0,14ls.1,1" ++
  "1.0,a.0,4p.0,2u8.0,8u.0"

/-- The code points with the property `Default_Ignorable_Code_Point`, packed. -/
def packedDefaultIgnorableCodePoint : String :=
  "4t.0,ip.0,jw.0,282.1,18z.1,2d.4,1kr.4,q.4,1d.f,3ck.0,14ez.f,6n.0,4g.0,27.8,119j.3,43z.7,h405.35r"

/-- The code points with the property `Deprecated`, packed. -/
def packedDeprecated : String :=
  "95.0,10p.0,1s3.0,1.0,1m1.1,1qd.5,jd.1,jh06.0"

/-- The code points with the property `Diacritic`, packed. -/
def packedDiacritic : String :=
  "2m.0,1.0,1z.0,6.0,4.0,2.1,dz.4e,1.7,5.5,h.1,4.0,9.1,71.4,5t.0,1j.g,1.q,1.0,1.1,1.0,3q.7,4.1,3q.1" ++
  ",4.1,3.2,1v.q,2j.a,1m.a,y.1,3i.7,15.9,g.r,1p.0,g.0,3.3,s.0,22.0,g.0,32.0,g.0,32.0,g.0,1b.2,1o.0," ++
  "g.0,7.0,3b.0,32.0,g.0,32.0,g.0,31.1,g.0,3g.0,3g.5,1.0,2z.0,d.4,23.1,r.0,1.0,1.0,4.1,1u.2,1.1,1q." ++
  "0,34.0,1.1,14.1,4.4,p.6,1.0,a.1,jl.2,qc.1,4z.a,9.0,9n.2,8p.7,2.0,1c.e,2.a,2w.0,f.0,12.8,1i.1,3u." ++
  "1,1s.5,2a.o,4.0,6.0,2.2,1e.1q,2h.b,11.a,cd.0,1.2,b.2,d.2,d.2,d.1,2k0.2,8t.0,e2.5,2x.3,2n.0,n76.0" ++
  ",c.1,1.0,s.1,2a.1,e.x,2u.2,31.1,5m.0,r.h,1l.3,10.0,2n.0,c.0,10.0,45.2,1t.3,1f.0,2s.4,9.2,3k.1,fn" ++
  "4.0,ld.f,7i.0,1.0,1b.0,19.1,1v.0,l8.0,wv.5,1.15,1.8,mi.1,fv.5,1t.4,b3.2,1y.a,1d.3,5c.0,15.0,20.1" ++
  ",3c.1,1q.0,24.0,9.2,2w.1,4y.1,29.0,g.0,o.6,3.4,5p.0,3.0,3f.1,6z.1,3i.0,3a.1,37.0,7h.1,76.1,4.0,4" ++
  "c.0,2b.0,i.0,29.0,bp.0,76.0,1.1,29.0,ci.0,44s.e,asa.4,1n.6,uw.g,28.1,cn2.3,1.6,1.1,64h.19,2.m,f4" ++
  ".2,3.5,8.7,2.6,u.3,2v6.1p,5e.6,af.0,1p.3,la.1,kg.6,31.2,1.2"

/-- The code points with the property `Emoji`, packed. -/
def packedEmoji : String :=
  "z.0,6.0,5.9,33.0,4.0,68d.0,c.0,60.0,m.0,2i.5,f.1,a7.1,c.0,4m.0,p.a,4.2,5j.0,6f.1,a.0,9.0,1m.3,1." ++
  "4,9.0,2.0,2.1,2.0,4.0,2.0,1.1,2.0,3.0,3.1,8.2,5.0,1.0,5.b,b.1,2.0,1.1,1.0,i.0,2.1,i.5,1.0,1.1,3." ++
  "1,5.0,2.1,4.1,b.1,5.1,2.0,5.1,1.0,1.1,k.1,5.5,1.3,2.0,4.0,2.0,2.5,1.0,2.0,1.0,1.0,6.0,3.0,6.0,a." ++
  "1,f.0,2.0,4.0,1.0,4.2,1.0,b.1,1c.2,9.0,e.0,e.0,ac.1,cv.2,j.1,1f.0,4.0,yi.0,c.0,gp.0,1.0,2fze.0,5" ++
  "m.0,4g.1,c.1,e.0,2.9,23.p,1.1,n.0,k.0,2.8,l.1,4u.x,2.33,2.1,1.2,2.2a,2.2,1.7a,1.1q,b.5,1.n,7.1,2" ++
  ".7,c.0,2.3,2.0,4.1,d.1,2.0,8.1,9.0,5.2,c.2,8.2,2.0,1.0,4.0,6.0,3.0,6.2d,1c.1x,5.7,2.2,4.9,3.0,1." ++
  "1,3.0,2.9,6b.b,4.0,7v.1a,1.9,1.54,34.c,3.9,5.1j,7.e,2.a,6.8"

/-- The code points with the property `Emoji_Component`, packed. -/
def packedEmojiComponent : String :=
  "z.0,6.0,5.9,6ab.0,5x.0,17or.0,1c5y.p,e3.4,14g.3,gw30.2n"

/-- The code points with the property `Emoji_Modifier`, packed. -/
def packedEmojiModifier : String :=
  "2qrf.4"

/-- The code points with the property `Emoji_Modifier_Base`, packed. -/
def packedEmojiModifierBase : String :=
  "7j1.0,63.0,g.3,2iyf.0,1o.2,2.0,2.2,39.1,2.a,l.i,3.0,4.2,1.2,7.0,1.0,o.0,5l.1,4.0,l.0,4.1,4u.2,3." ++
  "4,2b.0,g.2,9.0,b.0,fz.0,2.0,8.7,6.0,9.9,2.2,1k.0,1p.1,1.1,1.0,h.2,1.c,6d.2,16.8"

/-- The code points with the property `Emoji_Presentation`, packed. -/
def packedEmojiPresentation : String :=
  "6xm.1,5p.3,3.0,2.0,eh.1,l.1,1e.b,17.0,j.0,d.0,8.1,h.1,5.1,8.0,5.0,l.0,7.1,1.0,4.0,2.0,7.0,4.1,s." ++
  "0,z.0,1.0,4.2,1.0,1p.2,o.0,e.0,nv.1,1f.0,4.0,2hf2.0,5m.0,5a.0,2.9,23.p,1.0,o.0,k.0,2.4,1.2,l.1,4" ++
  "u.w,c.8,1.1x,1.l,c.16,4.4,c.g,3.0,3.1y,1.0,1.56,2.1q,d.3,1.n,i.0,q.1,d.0,2e.2c,1c.1x,6.0,3.2,2.2" ++
  ",4.3,b.1,7.8,6b.b,4.0,7v.1a,1.9,1.54,34.c,3.9,5.1j,7.e,2.a,6.8"

/-- The code points with the property `Extended_Pictographic`, packed. -/
def packedExtendedPictographic : String :=
  "4p.0,4.0,68d.0,c.0,60.0,m.0,2i.5,f.1,a7.1,c.0,2n.0,1y.0,p.a,4.2,5j.0,6f.1,a.0,9.0,1m.3,1.5,1.b,1" ++
  ".35,a.39,2.a,1.0,1.0,6.0,3.0,6.0,a.1,f.0,2.0,4.0,1.0,4.2,1.0,b.4,19.2,9.0,e.0,e.0,ac.1,cv.2,j.1," ++
  "1f.0,4.0,yi.0,c.0,gp.0,1.0,2fza.73,d.2,v.0,1o.5,c.1,e.0,2.9,i.1k,r.e,a.0,k.0,2.8,1.3,9.c1,5.8t,8" ++
  ".7d,1c.3j,38.b,2d.16,c.3,1k.7,a.5,14.7,u.29,c.1a,1.9,1.c8,74.sd"

/-- The code points with the property `Extender`, packed. -/
def packedExtender : String :=
  "53.0,ew.1,oe.0,c9.0,nu.0,kw.0,3j.0,1tv.0,1k.0,gz.0,b2.0,1w.0,3ux.0,17.4,2v.1,2l.2,lxy.0,16e.0,qq" ++
  ".0,m.0,3t.0,30.0,l.1,gor.0,1lc.1,157.0,w.0,165.0,h4.2,y7.0,fxl.1,ws.1,1.0,me0.1,1l2.2"

/-- The code points with the property `Grapheme_Base`, packed. -/
def packedGraphemeBase : String :=
  "w.2m,x.c,1.gh,34.7,2.5,4.6,1.0,1.j,1.67,7.4l,1.11,2.1d,2.2,1a.0,1.0,2.0,2.0,9.q,4.5,h.9,b.0,1.19" ++
  ",l.f,1.2s,8.0,6.1,2.0,4.v,2.0,1.t,t.2g,b.0,e.16,9.6,3.n,4.0,9.0,3.0,7.e,1.o,5.0,1.a,5.u,h.15,1l." ++
  "1i,1.0,1.3,8.3,1.2,7.9,2.s,1.1,1.7,2.1,2.l,1.6,1.0,3.3,3.0,1.1,6.1,2.1,1.0,d.1,1.2,4.n,5.0,1.5,4" ++
  ".1,2.l,1.6,1.1,1.1,1.1,4.2,o.3,1.0,7.9,2.2,1.0,c.0,1.8,1.2,1.l,1.6,1.1,1.4,3.3,8.0,1.1,3.0,f.1,4" ++
  ".b,7.0,8.1,1.7,2.1,2.l,1.6,1.1,1.4,3.0,2.0,6.1,2.1,f.1,1.2,4.h,b.0,1.5,3.2,1.3,3.1,1.0,1.1,3.1,3" ++
  ".2,3.b,5.0,1.1,3.2,1.2,3.0,l.k,6.2,1.7,1.2,1.m,1.f,3.0,3.3,j.2,2.0,2.1,4.9,7.9,1.a,1.2,1.m,1.9,1" ++
  ".4,3.1,2.0,1.1,o.1,1.1,4.9,1.2,e.a,1.2,1.14,2.0,1.1,5.2,1.2,1.1,4.2,1.9,4.p,2.1,1.h,3.n,1.8,1.0," ++
  "2.6,9.1,6.6,7.9,2.2,c.1b,1.1,b.7,8.c,11.1,1.0,1.4,1.n,1.0,1.9,1.1,9.0,2.4,1.0,9.9,2.3,w.n,2.q,1." ++
  "0,1.0,1.d,1.z,i.0,5.0,2.4,1d.7,1.5,1.c,11.18,4.0,6.0,2.1,2.o,2.3,3.f,4.c,1.1,2.5,1.e,1.13,1.0,5." ++
  "0,2.ag,1.3,2.6,1.0,1.3,2.14,1.3,2.w,1.3,2.6,1.0,1.3,2.e,1.1k,1.3,2.1u,5.s,3.p,6.2d,2.5,2.ik,3.2g" ++
  ",7.h,d.i,3.1,9.h,e.c,1.2,f.1f,2.0,7.7,1.1,b.8,3.9,6.9,6.a,5.9,6.2g,7.4,2.x,1.0,5.1x,a.u,4.3,2.2," ++
  "4.1,1.5,7.0,3.15,2.4,b.17,4.p,6.a,3.1k,2.1,3.1j,1.0,9.0,1.1,8.5,d.9,6.9,6.d,2e.1b,a.3,3.7,1.s,9." ++
  "b,2.v,4.1,6.1j,1.0,2.2,1.0,d.1b,8.1,5.e,3.1p,5.16,2.a,b.0,d.0,7.3,1.5,1.2,2.0,5.5b,1s.7p,2.5,2.1" ++
  "1,2.5,2.7,1.0,1.0,1.0,1.u,2.1g,1.e,1.d,2.5,1.i,2.2,1.8,1.a,5.n,7.1c,g.1,2.q,1.c,3.w,1r.3v,4.ih,m" ++
  ".a,l.1eb,2.v,1.9j,3.1,5.18,1.0,5.0,2.1j,7.1,f.m,9.6,1.6,1.6,1.6,1.6,1.6,1.6,1.6,x.2l,y.p,1.2g,c." ++
  "5x,q.1l,6.f,1.2d,4.2s,5.16,1.2l,1.2d,9.1b,1.mlo,3.1i,9.9n,k.1a,4.0,a.v,2.27,2.5,8.5p,2.1,1.0,1.7" ++
  ",l.f,1.2,1.3,1.o,2.4,4.9,6.1j,8.1v,a.b,o.c,1.11,8.o,b.0,c.t,6.1b,1.1,4.1,2.1,1.c,1.a,4.6,1.o,1.1" ++
  "4,6.1,2.1,b.2,1.7,1.0,2.9,2.v,1.1e,1.0,3.1,2.4,2.0,1.0,o.g,2.7,b.5,2.5,2.5,9.6,1.6,1.1n,4.38,1.1" ++
  ",1.3,3.9,6.8mb,c.m,4.1c,6is.a5,2.2x,12.6,c.4,5.0,1.n,1.4,1.0,1.1,1.1,1.3g,g.cc,2.1h,7.0,w.f,g.9," ++
  "m.y,1.i,1.3,4.4,1.3q,4.4c,2.u,3.5,2.5,2.5,2.2,3.6,1.6,d.1,2.b,1.p,1.i,1.1,1.e,2.d,y.3e,5.2,4.18," ++
  "3.2f,1.c,3.0,1b.18,3n.s,3.1c,g.q,4.z,9.t,5.11,a.t,1.10,4.d,16.4d,2.9,6.z,4.z,4.13,8.1f,b.b,1.e,1" ++
  ".6,1.1,1.a,1.e,1.6,1.1,3.1f,c.8m,9.l,a.7,o.5,1.15,1.8,1x.5,2.0,1.17,1.1,3.0,2.m,1.1z,8.8,1c.i,1." ++
  "1,5.w,3.q,5.0,1s.1j,4.j,2.1a,f.3,1.2,1.s,a.8,7.8,7.1r,w.10,6.b,9.1h,3.s,2.q,5.p,7.3,c.6,28.20,1j" ++
  ".1e,d.1e,7.15,c.9,6.11,8.n,8.1,5s.u,1.15,3.0,2.1,g.2,1n.13,8.l,b.8,m.h,4.3,12.r,k.m,9.0,1.1h,f.6" ++
  ",4.t,1.1,2.0,c.1c,4.1,2.1,1.3,e.o,7.9,9.z,5.0,9.h,8.y,1.2,b.1f,9.0,1.7,4.1,1.f,1.j,b.h,1.r,3.1,4" ++
  ".5,1.1,1r.6,1.0,1.3,1.e,1.a,6.1a,1.2,d.9,8.1,1.7,2.1,2.l,1.6,1.1,1.4,3.0,1.0,1.3,2.1,2.1,3.0,c.6" ++
  ",s.9,1.0,2.0,1.11,1.0,1.1,f.0,1.1,3.0,1.2,1.1,13.1j,8.1,3.0,1.k,1.0,1.2,u.1b,1.1,6.0,1.1,1.0,2.0" ++
  ",2.3,8.9,4m.1a,1.1,6.3,2.0,2.q,10.1e,8.1,1.0,2.3,b.9,6.c,j.16,1.0,1.1,8.1,6.9,6.j,s.q,5.1,4.0,9." ++
  "m,55.1a,9.0,2.0,2s.2a,c.7,2.0,2.7,1.1,1.n,1.4,1.1,6.3,1.2,9.9,1y.7,2.15,8.3,1.3,r.0,a.13,6.1,4.7" ++
  ",9.0,6.1,3.19,d.0,2.8,d.20,7.9,52.x,e.9,6.8,1.11,e.0,1.5,a.s,3.v,p.0,7.0,2.0,23.6,1.1,1.11,l.0,9" ++
  ".9,6.5,1.1,1.10,4.1,1.0,1.0,7.9,8m.i,2.3,9.e,1.z,8.1,3.m,2e.0,f.1d,d.pm,2u.32,1.4,b.5f,218.2q,d." ++
  "tr,h.5,p.32y,5.g6,5a1.t,c.2,3.9,1c6.fs,7.u,1.9,4.28,1.9,6.t,7.0,a.1b,7.e,a.9,1.6,1.k,5.i,c0.1l,5" ++
  "i.2i,2t.22,5.1j,b.c,1s.3,s.4qf,8.yd,15.9,6w7.3,1.6,1.1,1.82,f.0,t.2,2.0,e.3,8.az,1s4.2y,5.c,3.8," ++
  "7.9,2.0,2.0,31c.6x,6.c3,4c.37,1o.6t,a.12,2.1n,5.2,m.1,7.t,4.1o,l.1t,3.0,3e.j,c.j,c.2e,9.o,3r.2c," ++
  "1.1y,1.1,2.0,2.1,2.3,1.b,1.0,1.6,1.1s,1.3,2.7,1.6,1.r,1.3,1.4,1.0,3.6,1.9f,2.83,2.fl,1j.3,1e.7,1" ++
  ".d,1.6,vo.u,6.5,79.1p,42.18,a.6,2.9,4.1,8w.t,i.17,4.9,5.0,cw.r,4.9,5y.t,2.a,4.0,dc.6,1.3,1.1,1.e" ++
  ",1.5g,2.8,1c.1v,7.0,4.9,4.1,lt.1v,24.1o,5e.3,1.q,1.1,1.0,2.0,1.9,1.3,1.0,1.0,6.0,4.0,1.0,1.0,1.2" ++
  ",1.1,1.0,2.0,1.0,1.0,1.0,1.0,1.1,1.0,2.3,1.6,1.3,1.3,1.0,1.9,1.g,5.2,1.4,1.g,1g.1,7i.17,4.2r,c.e" ++
  ",2.e,1.e,1.10,a.4t,1k.s,d.17,4.8,7.1,e.5,4a.rb,4.g,3.c,3.3a,4.2m,6.b,4.0,f.b,4.1j,8.9,6.13,8.t,2" ++
  ".b,4.1,1q.9f,c.d,2.c,3.9,5.1j,7.e,2.a,6.8,7.42,1.2t,sm.wyn,w.37d,6.65,2.4g1,e.5rk,f.h9,1wi.f1,15" ++
  "u.3t6,5.38f"

/-- The code points with the property `Grapheme_Extend`, packed. -/
def packedGraphemeExtend : String :=
  "lc.33,7n.6,7b.18,1.0,1.1,1.1,1.0,20.a,1c.k,g.0,2t.6,2.5,2.1,1.3,z.0,u.q,2j.a,1m.8,9.0,o.3,1.8,1." ++
  "2,1.4,17.2,1n.8,16.n,1.v,1j.0,1.0,4.7,4.0,3.6,a.1,t.0,1m.0,1.0,2.3,8.0,9.0,a.1,q.0,2.1,1l.0,4.1," ++
  "4.1,2.2,3.0,u.1,3.0,b.1,1l.0,4.4,1.1,4.0,k.1,m.5,1.0,1m.0,1.1,1.3,8.0,7.2,a.1,u.0,1n.0,1.0,c.0,9" ++
  ".0,14.0,3.0,1j.0,1.2,5.2,1.3,7.1,b.1,t.0,1m.0,2.1,1.0,3.2,1.3,7.1,b.1,s.1,1l.1,1.0,2.3,8.0,9.0,a" ++
  ".1,t.0,20.0,4.0,2.2,1.0,8.0,29.0,2.6,c.7,2q.0,2.8,b.6,21.1,r.0,1.0,1.0,1j.d,1.4,1.1,5.a,1.z,9.0," ++
  "2u.3,1.5,1.1,2.1,p.1,4.2,g.3,d.0,2.1,6.0,f.0,jj.2,qa.3,s.2,t.1,u.1,1s.1,1.6,8.0,2.a,9.0,19.2,1.0" ++
  ",39.1,y.0,3a.2,4.1,9.0,6.2,63.1,2.0,1m.0,1.6,1.0,1.0,2.7,6.9,2.0,1c.u,1d.3,1c.9,4.2,12.8,c.1,w.3" ++
  ",2.5,1k.0,1.1,3.0,1.4,1k.7,2.1,48.2,1.c,1.6,4.0,6.0,3.1,5i.1r,ek.0,5f.w,2da.2,3x.0,2o.v,fe.5,2x." ++
  "1,n9w.3,1.9,w.1,28.1,7k.0,3.0,4.0,p.1,5.0,47.1,q.h,d.0,12.7,p.a,1.0,18.2,1c.0,2.3,2.1,2.0,10.0,1" ++
  "v.5,2.1,2.1,c.0,8.0,1b.0,1f.0,1.2,2.1,5.1,1.0,16.1,8.0,6m.0,2.0,4.0,fn4.0,kh.f,g.f,a6.1,gt.0,6a." ++
  "0,45.4,1ae.2,1.1,5.3,14.2,4.0,4l.1,fx.3,1t.4,8t.1,27.3,1y.a,1d.3,3f.0,1i.e,15.0,2.1,a.2,1d.3,2.1" ++
  ",7.0,1p.2,10.4,1.7,1q.0,c.1,1g.8,1.0,8.3,2.0,2n.2,2.3,6.0,2.0,4d.0,3.7,l.1,1l.1,1.0,1.0,c.0,9.0," ++
  "e.6,3.4,1v.0,2.5,1.0,2.0,1.2,4.2,1.0,e.1,2d.7,2.2,1.0,n.0,29.0,2.5,1.0,2.0,1.1,1.1,6j.0,2.3,6.1," ++
  "1.1,r.1,2d.7,2.0,1.1,2y.0,1.0,2.7,2t.2,2.3,1.4,77.8,1.1,6t.0,a.3,4.0,40.3,2.1,4.0,w.9,14.5,2.3,8" ++
  ".0,9.5,2.2,1a.c,1.1,ba.6,1.5,1.0,2a.l,2.6,1.1,1.1,3e.5,3.0,1.1,1.6,1.0,20.1,3.0,1.0,9n.1,b.1,1g." ++
  "4,5.2,n.0,44l.0,6.e,8ug.b,3.2,1xc.4,1n.6,t4.0,1r.3,29.0,b.1,f57.1,3mp.19,2.m,f2.4,3.5,8.7,2.6,u." ++
  "3,44.2,1iz.1i,4.1d,8.0,e.0,m.4,1.e,11s.6,1.g,2.6,1.1,1.4,2s.0,4g.6,af.0,1p.3,e4.3,72.1,kg.6,31.6" ++
  ",gzbp.2n,3k.6n"

/-- The code points with the property `Grapheme_Link`, packed. -/
def packedGraphemeLink : String :=
  "1u5.0,3j.0,3j.0,3j.0,3j.0,3j.0,3j.0,3j.0,31.1,g.0,3g.0,33.0,3j.0,5l.0,50.1,1cp.1,u.0,4d.0,i5.0,6" ++
  "b.0,2t.1,1y.1,3gr.0,o7a.0,11.0,47.0,3y.0,30.0,8l.0,6u.0,imp.0,16u.0,15.0,e.0,1l.0,3d.1,3v.0,38.0" ++
  ",50.0,2q.0,3k.2,35.0,3j.0,70.0,3j.0,3a.0,38.0,7h.0,77.1,4h.0,2b.0,i.0,29.0,bp.0,78.1,29.0,bt.1,d" ++
  "0s.0"

/-- The code points with the property `Hex_Digit`, packed. -/
def packedHexDigit : String :=
  "1c.9,7.5,q.5,1eax.9,7.5,q.5"

/-- The code points with the property `Hyphen`, packed. -/
def packedHyphen : String :=
  "19.0,3j.0,yk.0,3nf.0,1l5.1,2rp.0,kj.0,14kn.0,4p.0,2f.0"

/-- The code points with the property `IDS_Binary_Operator`, packed. -/
def packedIDSBinaryOperator : String :=
  "9gw.1,2.9,dt.0"

/-- The code points with the property `IDS_Trinary_Operator`, packed. -/
def packedIDSTrinaryOperator : String :=
  "9gy.1"

/-- The code points with the property `IDS_Unary_Operator`, packed. -/
def packedIDSUnaryOperator : String :=
  "9ha.1"

/-- The code points with the property `ID_Compat_Math_Continue`, packed. -/
def packedIDCompatMathContinue : String :=
  "4y.1,5.0,69i.0,3.a,1.e,ab.0,4.0,m.0,2e8y.0,p.0,v.0,p.0,v.0,p.0,v.0,p.0,v.0,p.0"

/-- The code points with the property `ID_Compat_Math_Start`, packed. -/
def packedIDCompatMathStart : String :=
  "6pu.0,4.0,m.0,2e8y.0,p.0,v.0,p.0,v.0,p.0,v.0,p.0,v.0,p.0"

/-- The code points with the property `ID_Continue`, packed. -/
def packedIDContinue : String :=
  "1c.9,7.p,4.0,1.p,1b.0,a.0,1.0,2.0,5.m,1.u,1.cp,4.b,e.4,7.0,1.0,h.38,1.1,2.3,1.0,6.4,1.0,1.j,1.2a" ++
  ",1.3u,1.4,2.4l,1.11,2.0,6.14,8.18,1.0,1.1,1.1,1.0,8.q,4.3,t.a,5.21,4.2t,1.7,2.9,1.i,2.0,g.1m,2.2" ++
  "s,e.1h,4.0,2.0,2.19,i.r,4.a,5.n,1.5,8.22,1.3k,2.9,1.i,1.7,2.1,2.l,1.6,1.0,3.3,2.8,2.1,2.3,8.0,4." ++
  "1,1.4,2.b,a.0,1.0,2.2,1.5,4.1,2.l,1.6,1.1,1.1,1.1,2.0,1.4,4.1,2.2,3.0,7.3,1.0,7.f,b.2,1.8,1.2,1." ++
  "l,1.6,1.1,1.4,2.9,1.2,1.2,2.0,f.3,2.9,9.6,1.2,1.7,2.1,2.l,1.6,1.1,1.4,2.8,2.1,2.2,7.2,4.1,1.4,2." ++
  "9,1.0,g.1,1.5,3.2,1.3,3.1,1.0,1.1,3.1,3.2,3.b,4.4,3.2,1.3,2.0,6.0,e.9,g.c,1.2,1.m,1.f,2.8,1.2,1." ++
  "3,7.1,1.2,2.0,2.3,2.9,g.3,1.7,1.2,1.m,1.9,1.4,2.8,1.2,1.3,7.1,6.1,1.3,2.9,1.2,c.c,1.2,1.1e,1.2,1" ++
  ".4,5.3,7.4,2.9,a.5,1.2,1.h,3.n,1.8,1.0,2.6,3.0,4.5,1.0,1.7,6.9,2.1,d.1l,5.e,1.9,13.1,1.0,1.4,1.n" ++
  ",1.0,1.m,2.4,1.0,1.6,1.9,2.3,w.0,n.1,6.9,b.0,1.0,1.0,4.9,1.z,4.j,1.h,1.z,9.0,1l.21,6.25,2.11,1.0" ++
  ",5.0,2.16,1.98,1.3,2.6,1.0,1.3,2.14,1.3,2.w,1.3,2.6,1.0,1.3,2.e,1.1k,1.3,2.1u,2.2,9.8,e.f,g.2d,2" ++
  ".5,3.h7,2.g,1.p,5.22,3.a,7.l,9.l,b.j,c.c,1.2,1.1,c.2b,3.0,4.1,2.9,x.2,1.a,6.2g,7.16,5.1x,a.u,1.b" ++
  ",4.b,a.13,2.4,b.17,4.p,6.a,11.r,4.1q,1.s,2.a,6.9,d.0,8.d,1.f,1d.24,3.9,h.8,c.37,c.1j,8.9,3.1c,2." ++
  "a,5.16,2.2,g.2,1.12,5.et,2.5,2.11,2.5,2.7,1.0,1.0,1.0,1.u,2.1g,1.6,1.0,3.2,1.6,3.3,2.5,4.c,5.2,1" ++
  ".6,f.1,1d.1,j.0,s.0,d.0,g.c,1f.c,4.0,3.b,h.0,4.0,2.9,1.0,2.5,6.0,1.0,1.0,1.f,2.3,5.4,4.0,h.14,22" ++
  "f.6c,6.8,c.11,1.0,5.0,2.1j,7.0,f.n,9.6,1.6,1.6,1.6,1.6,1.6,1.6,1.6,1.v,ed.2,p.e,1.4,2.4,4.2d,2.6" ++
  ",1.2m,5.16,1.2l,h.v,1c.f,e8.533,1s.h3g,1v.19,2.7g,3.r,k.1b,4.9,1.36,11.8,2.2u,2.1u,2.1,1.0,1.7,l" ++
  ".1h,4.0,j.1f,c.1x,a.9,6.n,3.0,1.1c,2.z,c.s,3.1s,e.a,6.u,1.1i,9.d,2.9,6.m,3.20,o.2,2.f,2.4,a.5,2." ++
  "5,2.5,9.6,1.6,1.16,1.d,6.3e,1.1,2.9,6.8mb,c.m,4.1c,6is.a5,2.2x,12.6,c.4,5.b,1.c,1.4,1.0,1.1,1.1," ++
  "1.2z,x.a2,i.1r,2.1h,14.b,4.f,g.f,3.1,o.2,w.4,1.3q,j.9,7.p,4.0,1.p,a.2h,3.5,2.5,2.5,2.2,z.b,1.p,1" ++
  ".i,1.1,1.e,2.d,y.3e,1x.1g,3s.0,3m.s,3.1c,f.0,v.v,d.t,5.16,5.t,2.z,4.7,1.4,16.4d,2.9,6.z,4.z,4.13" ++
  ",8.1f,c.a,1.e,1.6,1.1,1.a,1.e,1.6,1.1,3.1f,c.8m,9.l,a.7,o.5,1.15,1.8,1x.5,2.0,1.17,1.1,3.0,2.m,a" ++
  ".m,9.u,1t.i,1.1,a.l,a.p,1y.1j,6.1,1s.3,1.1,5.7,1.2,1.s,2.2,4.0,w.s,3.s,z.7,1.t,p.1h,a.l,a.i,d.h," ++
  "32.20,1j.1e,d.1e,d.13,8.9,6.11,3.4,1.m,6y.15,1.1,3.1,g.2,1j.w,a.0,8.w,v.l,16.k,r.m,9.1y,v.f,9.1n" ++
  ",7.0,d.o,7.9,6.1g,1.9,4.3,8.z,2.0,9.1w,4.3,1.c,1.0,z.h,1.10,6.3,1q.6,1.0,1.3,1.e,1.9,7.1m,5.9,6." ++
  "3,1.7,2.1,2.l,1.6,1.1,1.4,1.9,2.1,2.2,2.0,6.0,5.6,2.6,3.4,b.9,1.0,2.0,1.11,1.9,1.0,2.0,1.3,1.7,d" ++
  ".1,t.22,5.9,4.3,u.1x,1.0,8.9,4m.1h,2.8,n.5,y.1s,3.0,b.9,12.1k,7.9,6.j,s.q,2.e,4.9,6.6,55.1m,2t.2" ++
  "1,l.7,2.0,2.7,1.1,1.t,1.1,2.8,c.9,1y.7,2.19,2.7,1.1,r.1q,8.0,8.21,3.0,i.20,5j.w,f.9,6.8,1.18,1.8" ++
  ",f.9,o.t,2.l,1.d,21.6,1.1,1.17,3.0,1.1,1.8,8.9,6.5,1.1,1.10,1.1,1.5,7.9,8m.m,9.g,1.14,3.4,d.a,2d" ++
  ".0,27.pl,2u.32,h.5f,218.2o,f.tr,g.l,a.32y,5.g6,5a1.1l,1c6.fs,7.u,1.9,6.26,1.9,6.t,2.4,b.1i,9.3,c" ++
  ".9,9.k,5.i,c0.18,3.9,5i.1r,3k.22,4.1k,7.g,1s.1,1.1,b.1,e.4qf,8.yd,15.9,6w7.3,1.6,1.1,1.82,f.0,t." ++
  "2,2.0,e.3,8.az,1s4.2y,5.c,3.8,7.9,3.1,381.9,ee.19,2.m,f2.4,3.5,8.7,2.6,u.3,44.2,cb.2c,1.1y,1.1,2" ++
  ".0,2.1,2.3,1.b,1.0,1.6,1.1s,1.3,2.7,1.6,1.r,1.3,1.4,1.0,3.6,1.9f,2.o,1.o,1.u,1.o,1.u,1.o,1.u,1.o" ++
  ",1.u,1.o,1.7,2.1d,e8.1i,4.1d,8.0,e.0,m.4,1.e,uo.u,6.5,5x.6,1.g,2.6,1.1,1.4,5.1p,x.0,34.18,3.d,2." ++
  "9,4.0,8x.u,h.1l,d2.15,5y.16,dh.6,1.3,1.1,1.e,1.5g,b.6,15.23,4.9,x2.3,1.q,1.1,1.0,2.0,1.9,1.3,1.0" ++
  ",1.0,6.0,4.0,1.0,1.0,1.2,1.1,1.0,2.0,1.0,1.0,1.0,1.0,1.1,1.0,2.3,1.6,1.3,1.3,1.0,1.9,1.g,5.2,1.4" ++
  ",1.g,2lw.9,sm.wyn,w.37d,6.65,2.4g1,e.5rk,f.h9,1wi.f1,15u.3t6,5.38f,f9e8.6n"

/-- The code points with the property `ID_Start`, packed. -/
def packedIDStart : String :=
  "1t.p,6.p,1b.0,a.0,4.0,5.m,1.u,1.cp,4.b,e.4,7.0,1.0,3l.4,1.1,2.3,1.0,6.0,1.2,1.0,1.j,1.2a,1.3u,8." ++
  "4l,1.11,2.0,6.14,1z.q,4.3,19.16,z.1,1.2q,1.0,f.1,7.1,a.2,2.0,g.0,1.t,t.2g,b.0,o.w,9.1,4.0,5.l,4." ++
  "0,9.0,3.0,n.o,7.a,5.n,1.5,h.15,1m.1h,3.0,i.0,7.9,f.f,4.7,2.1,2.l,1.6,1.0,3.3,3.0,g.0,d.1,1.2,e.1" ++
  ",a.0,8.5,4.1,2.l,1.6,1.1,1.1,1.1,v.3,1.0,j.2,g.8,1.2,1.l,1.6,1.1,1.4,3.0,i.0,f.1,n.0,b.7,2.1,2.l" ++
  ",1.6,1.1,1.4,3.0,u.1,1.2,f.0,h.0,1.5,3.2,1.3,3.1,1.0,1.1,3.1,3.2,3.b,m.0,1g.7,1.2,1.m,1.f,3.0,q." ++
  "2,2.0,2.1,u.0,4.7,1.2,1.m,1.9,1.4,3.0,v.1,1.1,f.1,h.8,1.2,1.14,2.0,g.0,5.2,8.2,o.5,5.h,3.n,1.8,1" ++
  ".0,2.6,1m.1b,1.1,c.6,1m.1,1.0,1.4,1.n,1.0,1.9,1.1,9.0,2.4,1.0,l.3,w.0,1r.7,1.z,r.4,37.16,k.0,g.5" ++
  ",4.3,3.0,3.1,7.2,4.c,c.0,h.11,1.0,5.0,2.16,1.98,1.3,2.6,1.0,1.3,2.14,1.3,2.w,1.3,2.6,1.0,1.3,2.e" ++
  ",1.1k,1.3,2.1u,11.f,g.2d,2.5,3.h7,2.g,1.p,5.22,3.a,7.h,d.i,e.h,e.c,1.2,f.1f,z.0,4.0,1v.2g,7.14,1" ++
  ".0,5.1x,a.u,1d.t,2.4,b.17,4.p,1i.m,9.1g,2a.0,2l.1a,h.7,1i.t,d.1,a.17,q.z,15.2,a.z,2.a,5.16,2.2,1" ++
  "5.3,1.5,1.1,3.0,5.5b,1s.7p,2.5,2.11,2.5,2.7,1.0,1.0,1.0,1.u,2.1g,1.6,1.0,3.2,1.6,3.3,2.5,4.c,5.2" ++
  ",1.6,38.0,d.0,g.c,2t.0,4.0,2.9,1.0,2.5,6.0,1.0,1.0,1.f,2.3,5.4,4.0,h.14,22f.6c,6.3,3.1,c.11,1.0," ++
  "5.0,2.1j,7.0,g.m,9.6,1.6,1.6,1.6,1.6,1.6,1.6,1.6,fa.2,p.8,7.4,2.4,4.2d,4.4,1.2h,1.3,5.16,1.2l,h." ++
  "v,1c.f,e8.533,1s.h3g,1v.19,2.7g,3.f,a.1,k.1a,g.u,2.27,13.8,2.2u,2.1u,2.1,1.0,1.7,l.f,1.2,1.3,1.m" ++
  ",t.1f,e.1d,1q.5,3.0,1.1,b.r,a.m,p.s,7.1a,s.0,g.4,1.9,a.4,1.14,n.2,1.7,k.m,3.0,3.1d,1.0,3.1,2.4,2" ++
  ".0,1.0,o.2,2.a,7.2,c.5,2.5,2.5,9.6,1.6,1.16,1.d,6.36,t.8mb,c.m,4.1c,6is.a5,2.2x,12.6,c.4,5.0,1.9" ++
  ",1.c,1.4,1.0,1.1,1.1,1.2z,x.a2,i.1r,2.1h,14.b,38.4,1.3q,10.p,6.p,b.2g,3.5,2.5,2.5,2.2,z.b,1.p,1." ++
  "i,1.1,1.e,2.d,y.3e,1x.1g,7f.s,3.1c,1b.v,d.t,5.11,a.t,2.z,4.7,1.4,16.4d,i.z,4.z,4.13,8.1f,c.a,1.e" ++
  ",1.6,1.1,1.a,1.e,1.6,1.1,3.1f,c.8m,9.l,a.7,o.5,1.15,1.8,1x.5,2.0,1.17,1.1,3.0,2.m,a.m,9.u,1t.i,1" ++
  ".1,a.l,a.p,1y.1j,6.1,1s.0,f.3,1.2,1.s,16.s,3.s,z.7,1.r,r.1h,a.l,a.i,d.h,32.20,1j.1e,d.1e,d.z,12." ++
  "r,9.m,6y.15,6.1,g.2,1n.s,a.0,8.l,16.h,1a.k,r.m,c.1g,1l.1,2.0,d.18,w.o,q.z,t.0,2.0,8.y,3.0,c.1b,e" ++
  ".3,l.0,1.0,z.h,1.o,j.1,1r.6,1.0,1.3,1.e,1.9,7.1a,12.7,2.1,2.l,1.6,1.1,1.4,3.0,i.0,c.4,u.9,1.0,2." ++
  "0,1.11,1.0,p.0,1.0,18.1g,i.3,k.2,u.1b,k.1,1.0,54.1a,15.3,10.1b,k.0,1n.16,d.0,1z.q,11.6,55.17,38." ++
  "1r,v.7,2.0,2.7,1.1,1.n,f.0,1.0,2m.7,2.12,g.0,1.0,s.0,a.13,7.0,l.0,b.19,j.0,i.20,5j.w,v.8,1.10,h." ++
  "0,1d.t,34.6,1.1,1.11,l.0,p.5,1.1,1.v,e.0,93.i,f.0,1.c,1.x,3g.0,27.pl,2u.32,h.5f,218.2o,f.tr,h.5," ++
  "p.32y,5.g6,5a1.t,1cy.fs,7.u,h.26,h.t,i.1b,g.3,v.k,5.i,c0.18,5v.1r,3k.22,5.0,1u.c,1s.1,1.0,s.4qf," ++
  "8.yd,15.9,6w7.3,1.6,1.1,1.82,f.0,t.2,2.0,e.3,8.az,1s4.2y,5.c,3.8,7.9,4me.2c,1.1y,1.1,2.0,2.1,2.3" ++
  ",1.b,1.0,1.6,1.1s,1.3,2.7,1.6,1.r,1.3,1.4,1.0,3.6,1.9f,2.o,1.o,1.u,1.o,1.u,1.o,1.u,1.o,1.u,1.o,1" ++
  ".7,1f8.u,6.5,79.1p,42.18,a.6,g.0,8x.t,i.17,dg.r,6c.t,2.0,dr.6,1.3,1.1,1.e,1.5g,1n.1v,7.0,xg.3,1." ++
  "q,1.1,1.0,2.0,1.9,1.3,1.0,1.0,6.0,4.0,1.0,1.0,1.2,1.1,1.0,2.0,1.0,1.0,1.0,1.0,1.1,1.0,2.3,1.6,1." ++
  "3,1.3,1.0,1.9,1.g,5.2,1.4,1.g,3es.wyn,w.37d,6.65,2.4g1,e.5rk,f.h9,1wi.f1,15u.3t6,5.38f"

/-- The code points with the property `Ideographic`, packed. -/
def packedIdeographic : String :=
  "9hi.1,p.8,e.2,qt.533,1s.g73,hkw.a5,2.2x,n4a.0,r.4qf,8.yd,16.8,76v.az,f7o.wyn,w.37d,6.65,2.4g1,e." ++
  "5rk,f.h9,1wi.f1,15u.3t6,5.38f"

/-- The code points with the property `Join_Control`, packed. -/
def packedJoinControl : String :=
  "6bw.1"

/-- The code points with the property `Logical_Order_Exception`, packed. -/
def packedLogicalOrderException : String :=
  "2tc.4,3f.4,25s.2,2.0,smy.1,2.0,1.1"

/-- The code points with the property `Lowercase`, packed. -/
def packedLowercase : String :=
  "2p.p,1b.0,a.0,4.0,10.n,1.7,1.0,1.0,1.0,1.0,1.0,1.0,1.0,1.0,1.0,1.0,1.0,1.0,1.0,1.0,1.0,1.0,1.0,1" ++
  ".0,1.0,1.0,1.0,1.0,1.0,1.0,1.0,1.0,1.0,1.1,1.0,1.0,1.0,1.0,1.0,1.0,1.0,1.1,1.0,1.0,1.0,1.0,1.0,1" ++
  ".0,1.0,1.0,1.0,1.0,1.0,1.0,1.0,1.0,1.0,1.0,1.0,1.0,1.0,1.0,1.0,1.0,1.0,2.0,1.0,1.2,2.0,1.0,2.0,3" ++
  ".1,4.0,2.0,3.2,2.0,2.0,1.0,1.0,2.0,1.1,1.0,2.0,3.0,1.0,2.1,2.2,6.0,2.0,2.0,1.0,1.0,1.0,1.0,1.0,1" ++
  ".0,1.0,1.1,1.0,1.0,1.0,1.0,1.0,1.0,1.0,1.0,1.1,2.0,1.0,3.0,1.0,1.0,1.0,1.0,1.0,1.0,1.0,1.0,1.0,1" ++
  ".0,1.0,1.0,1.0,1.0,1.0,1.0,1.0,1.0,1.0,1.0,1.0,1.0,1.0,1.0,1.0,1.0,1.0,1.0,1.6,2.0,2.1,1.0,4.0,1" ++
  ".0,1.0,1.0,1.1w,1.z,7.1,u.4,2o.0,17.0,1.0,3.0,2.3,i.0,r.y,1.1,3.2,1.0,1.0,1.0,1.0,1.0,1.0,1.0,1." ++
  "0,1.0,1.0,1.0,1.4,1.0,2.0,2.1,1f.1b,1.0,1.0,1.0,1.0,1.0,1.0,1.0,1.0,1.0,1.0,1.0,1.0,1.0,1.0,1.0," ++
  "1.0,1.0,9.0,1.0,1.0,1.0,1.0,1.0,1.0,1.0,1.0,1.0,1.0,1.0,1.0,1.0,1.0,1.0,1.0,1.0,1.0,1.0,1.0,1.0," ++
  "1.0,1.0,1.0,1.0,1.0,2.0,1.0,1.0,1.0,1.0,1.0,1.1,1.0,1.0,1.0,1.0,1.0,1.0,1.0,1.0,1.0,1.0,1.0,1.0," ++
  "1.0,1.0,1.0,1.0,1.0,1.0,1.0,1.0,1.0,1.0,1.0,1.0,1.0,1.0,1.0,1.0,1.0,1.0,1.0,1.0,1.0,1.0,1.0,1.0," ++
  "1.0,1.0,1.0,1.0,1.0,1.0,1.0,1.0,1.0,1.0,1.0,1.0,1c.14,287.16,1.3,l4.5,1oi.8,1.0,39.5b,1t.0,1.0,1" ++
  ".0,1.0,1.0,1.0,1.0,1.0,1.0,1.0,1.0,1.0,1.0,1.0,1.0,1.0,1.0,1.0,1.0,1.0,1.0,1.0,1.0,1.0,1.0,1.0,1" ++
  ".0,1.0,1.0,1.0,1.0,1.0,1.0,1.0,1.0,1.0,1.0,1.0,1.0,1.0,1.0,1.0,1.0,1.0,1.0,1.0,1.0,1.0,1.0,1.0,1" ++
  ".0,1.0,1.0,1.0,1.0,1.0,1.0,1.0,1.0,1.0,1.0,1.0,1.0,1.0,1.0,1.0,1.0,1.0,1.0,1.0,1.0,1.0,1.0,1.0,1" ++
  ".8,1.0,1.0,1.0,1.0,1.0,1.0,1.0,1.0,1.0,1.0,1.0,1.0,1.0,1.0,1.0,1.0,1.0,1.0,1.0,1.0,1.0,1.0,1.0,1" ++
  ".0,1.0,1.0,1.0,1.0,1.0,1.0,1.0,1.0,1.0,1.0,1.0,1.0,1.0,1.0,1.0,1.0,1.0,1.0,1.0,1.0,1.0,1.0,1.0,1" ++
  ".0,1.8,8.5,a.7,8.7,8.5,a.7,8.7,8.d,2.7,8.7,8.7,8.4,1.1,6.0,3.2,1.1,8.3,2.1,8.7,a.2,1.1,3d.0,d.0," ++
  "g.c,31.0,3.1,3.0,r.0,4.0,4.0,2.1,8.3,4.0,x.f,4.0,nf.p,1fq.1b,1.0,3.1,1.0,1.0,1.0,4.0,1.1,1.7,3.0" ++
  ",1.0,1.0,1.0,1.0,1.0,1.0,1.0,1.0,1.0,1.0,1.0,1.0,1.0,1.0,1.0,1.0,1.0,1.0,1.0,1.0,1.0,1.0,1.0,1.0" ++
  ",1.0,1.0,1.0,1.0,1.0,1.0,1.0,1.0,1.0,1.0,1.0,1.0,1.0,1.0,1.0,1.0,1.0,1.0,1.0,1.0,1.0,1.0,1.0,1.0" ++
  ",1.1,7.0,1.0,4.0,c.11,1.0,5.0,nwz.0,1.0,1.0,1.0,1.0,1.0,1.0,1.0,1.0,1.0,1.0,1.0,1.0,1.0,1.0,1.0," ++
  "1.0,1.0,1.0,1.0,1.0,1.0,1.0,j.0,1.0,1.0,1.0,1.0,1.0,1.0,1.0,1.0,1.0,1.0,1.0,1.0,1.2,3p.0,1.0,1.0" ++
  ",1.0,1.0,1.0,1.2,1.0,1.0,1.0,1.0,1.0,1.0,1.0,1.0,1.0,1.0,1.0,1.0,1.0,1.0,1.0,1.0,1.0,1.0,1.0,1.0" ++
  ",1.0,1.0,1.0,1.0,1.0,1.0,1.0,1.0,1.0,1.0,1.9,1.0,1.0,2.0,1.0,1.0,1.0,1.0,4.0,1.0,2.0,1.2,1.0,1.0" ++
  ",1.0,1.0,1.0,1.0,1.0,1.0,1.0,1.0,5.0,5.0,1.0,1.0,1.0,1.0,1.0,1.0,1.0,4.0,1.0,2.0,3.0,1.0,1.0,1.0" ++
  ",1.0,1.0,m.2,1.0,1.2,mt.16,1.d,6.27,fnk.6,c.4,tl.p,y5.13,3s.z,4b.a,1.e,1.6,1.1,cj.0,2.2,1.15,1.8" ++
  ",zp.1e,3h.l,27u.v,gw0.v,k2i.p,q.6,1.h,q.p,q.3,1.0,1.6,1.a,q.p,q.p,q.p,q.p,q.p,q.p,q.p,q.p,q.r,s." ++
  "o,1.5,q.o,1.5,q.o,1.5,q.o,1.5,q.o,1.5,1.0,1f8.9,1.j,6.5,79.1p,1pw.x"

/-- The code points with the property `Math`, packed. -/
def packedMath : String :=
  "17.0,g.2,v.0,t.0,1.0,19.0,4.0,11.0,v.0,k8.2,2.0,q.1,2.2,en.2,559.0,r.2,b.0,3.0,d.0,e.3,l.4,b.4,1" ++
  "t.c,4.0,3.1,4.4,i.0,4.0,2.9,1.0,2.5,6.0,3.1,2.1,1.2,1.5,3.d,1.0,1w.n,1.5,1.1,4.1,4.v,1.0,6.1,e.7" ++
  "f,8.3,k.1,2i.0,u.q,1.0,o.0,b.6,cd.1,c.9,4.5,4.1,2.1,3.4,e.0,1.0,2.5,b.7,5.1,1l.0,1.0,t.3,9.2,9c." ++
  "1r,74.e7,1c.k,2.5,1524.0,mv.5,1.0,4i.0,g.2,t.0,1.0,t.0,1.0,3n.0,6.3,2ox.1,1374.2c,1.1y,1.1,2.0,2" ++
  ".1,2.3,1.b,1.0,1.6,1.1s,1.3,2.7,1.6,1.r,1.3,1.4,1.0,3.6,1.9f,2.83,2.1d,4cg.3,1.q,1.1,1.0,2.0,1.9" ++
  ",1.3,1.0,1.0,6.0,4.0,1.0,1.0,1.2,1.1,1.0,2.0,1.0,1.0,1.0,1.0,1.1,1.0,2.3,1.6,1.3,1.3,1.0,1.9,1.g" ++
  ",5.2,1.4,1.g,1g.1"

/-- The code points with the property `Modifier_Combining_Mark`, packed. -/
def packedModifierCombiningMark : String :=
  "190.1,2.0,3n.0,6.0,3.1,dd.1,1.2,3.0,v.0"

/-- The code points with the property `Noncharacter_Code_Point`, packed. -/
def packedNoncharacterCodePoint : String :=
  "1e4w.v,em.1,1eke.1,1eke.1,1eke.1,1eke.1,1eke.1,1eke.1,1eke.1,1eke.1,1eke.1,1eke.1,1eke.1,1eke.1," ++
  "1eke.1,1eke.1,1eke.1,1eke.1"

/-- The code points with the property `Other_Alphabetic`, packed. -/
def packedOtherAlphabetic : String :=
  "n9.0,h6.d,1.0,1.1,1.1,1.0,20.a,1c.c,1.6,g.0,2t.6,4.3,2.1,4.0,z.0,u.f,2u.a,2t.1,3.8,1.2,1.3,2y.0," ++
  "1o.b,3.6,6.j,1i.1,2.e,1.1,5.2,a.1,t.2,1m.6,2.1,2.1,a.0,a.1,t.2,1m.4,4.1,2.1,4.0,u.1,3.0,b.2,1m.7" ++
  ",1.2,1.1,l.1,m.2,4.2,1m.6,2.1,2.1,9.1,a.1,u.0,1n.4,3.2,1.2,a.0,14.4,1l.6,1.2,1.2,8.1,b.1,t.2,1m." ++
  "6,1.2,1.2,8.1,b.1,f.0,c.3,1m.6,1.2,1.2,a.0,a.1,t.2,23.5,1.0,1.7,i.1,1p.0,2.6,i.0,2r.0,2.5,1.1,g." ++
  "0,4j.i,9.a,1.z,32.b,1.0,2.3,n.3,4.2,1.2,2.6,3.3,d.b,1.0,a.3,19w.1,u.1,u.1,u.1,1u.i,58.1,y.0,3a.b" ++
  ",4.8,66.4,1l.9,2.j,22.1,b.2,1d.4,1c.e,1o.2,u.8,2.1,1l.a,1e.i,c0.d,1c1.1f,1rq.v,nsk.7,y.1,9u.0,8." ++
  "0,n.4,2g.1,1e.f,1.0,1l.0,12.4,s.b,19.3,1c.b,11.0,1v.d,c.0,8.1,19.2,1e.0,1.2,2.1,5.0,18.4,5.0,6l." ++
  "7,fn7.0,1nb.4,1ae.2,1.1,5.3,lw.3,1t.0,8x.1,27.0,77.2,1h.d,19.1,b.2,19.8,9.0,1p.2,10.b,i.1,1l.2,1" ++
  "c.c,e.1,2k.8,2.0,6.0,2.0,4d.9,n.3,1m.6,2.1,2.1,a.0,a.1,2c.8,1.0,2.0,1.3,1.1,2v.c,1.2,2y.h,6l.6,2" ++
  ".6,t.1,2a.e,1.0,2y.a,2v.d,75.c,6v.5,1.1,2.1,3.0,1.0,3y.6,2.5,4.0,s.9,16.4,1.3,i.a,1a.d,bb.7,1.6," ++
  "2b.l,1.d,3e.5,3.0,1.1,1.2,1.0,3.0,1u.4,1.1,1.3,9o.3,9.1,1.0,1c.6,3.2,d0d.g,2sg.0,1.1i,7.3,2l.1,f" ++
  "58.0,6zl.6,1.g,2.6,1.1,1.4,2s.0,1pz.0,1k8.p,6.p,6.p"

/-- The code points with the property `Other_Default_Ignorable_Code_Point`, packed. -/
def packedOtherDefaultIgnorableCodePoint : String :=
  "nj.0,2rz.1,18z.1,1pr.0,3cu.0,14qj.0,27.8,i9dz.0,1.t,2o.3j,6o.2rz"

/-- The code points with the property `Other_Grapheme_Extend`, packed. -/
def packedOtherGraphemeExtend : String :=
  "1xa.0,o.0,9y.0,o.0,2u.0,o.0,6g.0,1.0,4.1,1.1,9.1,2v.0,o.0,3b.0,f.0,1th.0,u.0,sg.0,5.0,1.0,5.1,2t" ++
  ".0,1z.1,t4.0,36p.1,nxf.0,30.0,gyl.1,3kw.0,38.0,7c.0,e.0,9.0,2o.0,9.0,2.0,1.2,5.0,68.0,c.0,6p.0,7" ++
  "a.0,hl.0,c.0,16r.0,fxq.1,j8z.1,6.5,h419.2n"

/-- The code points with the property `Other_ID_Continue`, packed. -/
def packedOtherIDContinue : String :=
  "53.0,jz.0,34x.8,19k.0,181.1,3cd.0,14rt.0"

/-- The code points with the property `Other_ID_Start`, packed. -/
def packedOtherIDStart : String :=
  "4ud.1,1ox.0,l.0,31o.1"

/-- The code points with the property `Other_Lowercase`, packed. -/
def packedOtherLowercase : String :=
  "4q.0,f.0,dx.8,7.1,u.4,2o.0,1g.0,2o1.0,2en.1q,d.0,y.10,j5.0,d.0,g.c,5v.f,nk.p,1hu.1,o4e.1,5u.0,3l" ++
  ".2,3.1,o2.3,9.0,i6u.0,2.2,1.15,1.8,16r9.1p"

/-- The code points with the property `Other_Math`, packed. -/
def packedOtherMath : String :=
  "2m.0,oh.2,2.0,q.1,2.1,5k0.0,r.2,b.0,w.3,o.1,e.1,1t.c,4.0,3.1,4.4,i.0,4.0,2.9,1.0,3.4,6.0,3.1,2.1" ++
  ",1.2,1.5,3.3,5.4,23.4,2.3,1.1,1.1,1.0,1.4,2.1,4.1,4.h,2.1,1.0,1.6,1.0,6.1,82.3,4o.1,1.0,o.0,h.0," ++
  "cd.1,c.8,5.4,5.1,2.1,3.4,e.0,1.0,2.5,o.1,1l.0,1.0,t.3,9.1,9i.1,v.9,b7.l,1r.3,w.1,15yb.0,1.0,4.0," ++
  "5v.0,1.0,160x.2c,1.1y,1.1,2.0,2.1,2.3,1.b,1.0,1.6,1.1s,1.3,2.7,1.6,1.r,1.3,1.4,1.0,3.6,1.9f,2.o," ++
  "1.o,1.u,1.o,1.u,1.o,1.u,1.o,1.u,1.o,1.7,2.1d,4cg.3,1.q,1.1,1.0,2.0,1.9,1.3,1.0,1.0,6.0,4.0,1.0,1" ++
  ".0,1.2,1.1,1.0,2.0,1.0,1.0,1.0,1.0,1.1,1.0,2.3,1.6,1.3,1.3,1.0,1.9,1.g,5.2,1.4,1.g"

/-- The code points with the property `Other_Uppercase`, packed. -/
def packedOtherUppercase : String :=
  "6lc.f,na.p,2ixs.p,6.p,6.p"

/-- The code points with the property `Pattern_Syntax`, packed. -/
def packedPatternSyntax : String :=
  "x.e,a.6,q.3,1.0,q.3,y.6,1.0,1.1,1.0,1.1,4.0,4.0,3.0,n.0,v.0,654.n,8.e,2.i,1.9,8h.jz,4g.hh,u.vf,e" ++
  "8.3j,ap.2,4.o,f.0,14i5.1,79.1"

/-- The code points with the property `Pattern_White_Space`, packed. -/
def packedPatternWhiteSpace : String :=
  "9.4,i.0,2s.0,688.1,o.1"

/-- The code points with the property `Prepended_Concatenation_Mark`, packed. -/
def packedPrependedConcatenationMark : String :=
  "16o.5,5z.0,1d.0,ao.1,28.0,1g4a.0,f.0"

/-- The code points with the property `Quotation_Mark`, packed. -/
def packedQuotationMark : String :=
  "y.0,4.0,3n.0,f.0,670.7,p.1,2rr.0,cp.3,d.2,14pt.3,59.0,4.0,2i.1"

/-- The code points with the property `Radical`, packed. -/
def packedRadical : String :=
  "96o.p,1.2g,c.5x"

/-- The code points with the property `Regional_Indicator`, packed. -/
def packedRegionalIndicator : String :=
  "2qcm.p"

/-- The code points with the property `Sentence_Terminal`, packed. -/
def packedSentenceTerminal : String :=
  "x.0,c.0,g.0,11l.0,43.2,50.0,17.2,6u.0,1p.0,1.0,3.1,85.1,1d0.1,ly.0,4.1,lh.0,5i.1,5o.0,5.0,8q.1,9" ++
  "u.3,4j.0,a.1,2.1,t.1,58.1,1t.1,qk.1,9.2,2qs.0,d.0,m.1,bx.0,n3w.0,7i.1,6b.0,3.0,am.1,2e.1,2n.0,48" ++
  ".1,43.2,40.1,6x.0,g9y.0,3.1,4p.0,c.0,g.0,1t.0,25w.1,zh.4,18.3,59.1,39.3,3j.2,3l.1,6.0,g.1,2g.1,1" ++
  ".1,30.0,8a.1,39.1,ad.1,5.e,2x.1,6x.2,ed.0,1.0,6z.1,2f.1,bo.1,j8.1,22.1,euh.1,3p.0,1t.1,b.0,fd.1," ++
  "88.0,feu.0,5wo.0"

/-- The code points with the property `Soft_Dotted`, packed. -/
def packedSoftDotted : String :=
  "2x.1,5g.0,7t.0,u.0,1g.0,k.0,8w.0,2q.0,1.0,4y1.0,1f.0,d.0,3.0,3o.0,4d.0,bp.0,5y.1,27m.0,2bol.1,1e" ++
  ".1,1e.1,1e.1,1e.1,1e.1,1e.1,1e.1,1e.1,1e.1,1e.1,1e.1,1e.1,1om.0,8h.1,q.0"

/-- The code points with the property `Terminal_Punctuation`, packed. -/
def packedTerminalPunctuation : String :=
  "x.0,a.0,1.0,b.1,3.0,n2.0,8.0,e9.0,1l.0,20.0,e.0,1.2,50.0,17.a,1.0,6j.1,1i.e,v.0,79.1,z8.1,4s.0,4" ++
  ".5,8n.1,lx.7,lh.0,3g.2,1z.1,4d.2,3.0,13.3,2.1,8q.1,9u.3,4i.1,a.1,1.2,t.1,58.4,1q.1,qk.1,9.2,2qs." ++
  "0,d.0,4.0,a.0,1.1,3.1,bw.1,n3v.1,7h.2,6b.4,am.1,2e.1,2n.0,47.2,43.2,3j.0,g.1,6x.0,g9w.2,1.3,4p.0" ++
  ",a.0,1.0,b.1,3.0,1t.0,2.0,u2.0,1c.0,w6.0,5j.0,8m.1,48.5,1w.5,2h.3,qg.4,18.3,59.6,34.3,3j.2,3l.1," ++
  "6.0,g.1,2g.4,30.0,8a.1,39.2,c.1,9y.3,3.e,2x.1,6x.2,ed.0,1.0,6z.1,2f.1,4.1,bi.2,19.0,hx.1,22.1,10" ++
  "r.4,dtl.1,3p.0,1t.2,a.0,fd.1,87.1,feu.0,5wn.3"

/-- The code points with the property `Unified_Ideograph`, packed. -/
def packedUnifiedIdeograph : String :=
  "a9s.533,1s.g73,hse.1,1.0,1.1,a.0,1.0,1.1,2.2,1fpy.wyn,w.37d,6.65,2.4g1,e.5rk,f.h9,3he.3t6,5.38f"

/-- The code points with the property `Uppercase`, packed. -/
def packedUppercase : String :=
  "1t.p,2t.m,1.6,x.0,1.0,1.0,1.0,1.0,1.0,1.0,1.0,1.0,1.0,1.0,1.0,1.0,1.0,1.0,1.0,1.0,1.0,1.0,1.0,1." ++
  "0,1.0,1.0,1.0,1.0,1.0,1.0,1.0,2.0,1.0,1.0,1.0,1.0,1.0,1.0,1.0,2.0,1.0,1.0,1.0,1.0,1.0,1.0,1.0,1." ++
  "0,1.0,1.0,1.0,1.0,1.0,1.0,1.0,1.0,1.0,1.0,1.0,1.0,1.0,1.0,1.1,1.0,1.0,3.1,1.0,1.1,1.2,2.3,1.1,1." ++
  "2,3.1,1.1,1.0,1.0,1.1,1.0,2.0,1.1,1.2,1.0,1.1,3.0,7.0,2.0,2.0,2.0,1.0,1.0,1.0,1.0,1.0,1.0,1.0,2." ++
  "0,1.0,1.0,1.0,1.0,1.0,1.0,1.0,1.0,2.0,2.0,1.2,1.0,1.0,1.0,1.0,1.0,1.0,1.0,1.0,1.0,1.0,1.0,1.0,1." ++
  "0,1.0,1.0,1.0,1.0,1.0,1.0,1.0,1.0,1.0,1.0,1.0,1.0,1.0,1.0,1.0,1.0,7.1,1.1,2.0,1.3,1.0,1.0,1.0,1." ++
  "0,81.0,1.0,3.0,8.0,6.0,1.2,1.0,1.1,1.g,1.8,z.0,2.2,3.0,1.0,1.0,1.0,1.0,1.0,1.0,1.0,1.0,1.0,1.0,1" ++
  ".0,5.0,2.0,1.1,2.1e,1c.0,1.0,1.0,1.0,1.0,1.0,1.0,1.0,1.0,1.0,1.0,1.0,1.0,1.0,1.0,1.0,1.0,9.0,1.0" ++
  ",1.0,1.0,1.0,1.0,1.0,1.0,1.0,1.0,1.0,1.0,1.0,1.0,1.0,1.0,1.0,1.0,1.0,1.0,1.0,1.0,1.0,1.0,1.0,1.0" ++
  ",1.0,1.1,1.0,1.0,1.0,1.0,1.0,1.0,2.0,1.0,1.0,1.0,1.0,1.0,1.0,1.0,1.0,1.0,1.0,1.0,1.0,1.0,1.0,1.0" ++
  ",1.0,1.0,1.0,1.0,1.0,1.0,1.0,1.0,1.0,1.0,1.0,1.0,1.0,1.0,1.0,1.0,1.0,1.0,1.0,1.0,1.0,1.0,1.0,1.0" ++
  ",1.0,1.0,1.0,1.0,1.0,1.0,1.0,1.0,2.11,289.11,1.0,5.0,k2.2d,1oz.0,6.16,2.2,8w.0,1.0,1.0,1.0,1.0,1" ++
  ".0,1.0,1.0,1.0,1.0,1.0,1.0,1.0,1.0,1.0,1.0,1.0,1.0,1.0,1.0,1.0,1.0,1.0,1.0,1.0,1.0,1.0,1.0,1.0,1" ++
  ".0,1.0,1.0,1.0,1.0,1.0,1.0,1.0,1.0,1.0,1.0,1.0,1.0,1.0,1.0,1.0,1.0,1.0,1.0,1.0,1.0,1.0,1.0,1.0,1" ++
  ".0,1.0,1.0,1.0,1.0,1.0,1.0,1.0,1.0,1.0,1.0,1.0,1.0,1.0,1.0,1.0,1.0,1.0,1.0,1.0,1.0,1.0,9.0,1.0,1" ++
  ".0,1.0,1.0,1.0,1.0,1.0,1.0,1.0,1.0,1.0,1.0,1.0,1.0,1.0,1.0,1.0,1.0,1.0,1.0,1.0,1.0,1.0,1.0,1.0,1" ++
  ".0,1.0,1.0,1.0,1.0,1.0,1.0,1.0,1.0,1.0,1.0,1.0,1.0,1.0,1.0,1.0,1.0,1.0,1.0,1.0,1.0,1.0,1.0,9.7,8" ++
  ".5,a.7,8.7,8.5,b.0,1.0,1.0,1.0,8.7,20.3,c.3,c.3,c.4,b.3,7a.0,4.0,3.2,2.2,2.0,3.4,6.0,1.0,1.0,1.3" ++
  ",2.3,a.1,5.0,q.f,j.0,mq.p,1f4.1b,1c.0,1.2,2.0,1.0,1.0,1.3,1.0,2.0,8.2,1.0,1.0,1.0,1.0,1.0,1.0,1." ++
  "0,1.0,1.0,1.0,1.0,1.0,1.0,1.0,1.0,1.0,1.0,1.0,1.0,1.0,1.0,1.0,1.0,1.0,1.0,1.0,1.0,1.0,1.0,1.0,1." ++
  "0,1.0,1.0,1.0,1.0,1.0,1.0,1.0,1.0,1.0,1.0,1.0,1.0,1.0,1.0,1.0,1.0,1.0,1.0,8.0,1.0,4.0,nyl.0,1.0," ++
  "1.0,1.0,1.0,1.0,1.0,1.0,1.0,1.0,1.0,1.0,1.0,1.0,1.0,1.0,1.0,1.0,1.0,1.0,1.0,1.0,1.0,j.0,1.0,1.0," ++
  "1.0,1.0,1.0,1.0,1.0,1.0,1.0,1.0,1.0,1.0,1.0,3r.0,1.0,1.0,1.0,1.0,1.0,1.0,3.0,1.0,1.0,1.0,1.0,1.0" ++
  ",1.0,1.0,1.0,1.0,1.0,1.0,1.0,1.0,1.0,1.0,1.0,1.0,1.0,1.0,1.0,1.0,1.0,1.0,1.0,1.0,1.0,1.0,1.0,1.0" ++
  ",1.0,a.0,1.0,1.1,1.0,1.0,1.0,1.0,4.0,1.0,2.0,1.0,3.0,1.0,1.0,1.0,1.0,1.0,1.0,1.0,1.0,1.0,1.4,1.4" ++
  ",1.0,1.0,1.0,1.0,1.0,1.0,1.0,1.3,1.0,1.1,3.0,5.0,1.0,1.0,1.0,o.0,h7v.p,xx.13,3s.z,4c.a,1.e,1.6,1" ++
  ".1,1d6.1e,4d.l,27u.v,gw0.v,k2o.p,q.p,q.p,q.0,1.1,2.0,2.1,2.3,1.7,q.p,q.1,1.3,2.7,1.6,r.1,1.3,1.4" ++
  ",1.0,3.6,r.p,q.p,q.p,q.p,q.p,q.p,u.o,x.o,x.o,x.o,x.o,x.0,3ed.x,1la.p,6.p,6.p"

/-- The code points with the property `Variation_Selector`, packed. -/
def packedVariationSelector : String :=
  "4qz.2,1.0,19f4.f,i9yo.6n"

/-- The code points with the property `White_Space`, packed. -/
def packedWhiteSpace : String :=
  "9.4,i.0,2s.0,q.0,4bj.0,1vj.a,t.1,5.0,1b.0,334.0"

/-- The code points with the property `XID_Continue`, packed. -/
def packedXIDContinue : String :=
  "1c.9,7.p,4.0,1.p,1b.0,a.0,1.0,2.0,5.m,1.u,1.cp,4.b,e.4,7.0,1.0,h.38,1.1,3.2,1.0,6.4,1.0,1.j,1.2a" ++
  ",1.3u,1.4,2.4l,1.11,2.0,6.14,8.18,1.0,1.1,1.1,1.0,8.q,4.3,t.a,5.21,4.2t,1.7,2.9,1.i,2.0,g.1m,2.2" ++
  "s,e.1h,4.0,2.0,2.19,i.r,4.a,5.n,1.5,8.22,1.3k,2.9,1.i,1.7,2.1,2.l,1.6,1.0,3.3,2.8,2.1,2.3,8.0,4." ++
  "1,1.4,2.b,a.0,1.0,2.2,1.5,4.1,2.l,1.6,1.1,1.1,1.1,2.0,1.4,4.1,2.2,3.0,7.3,1.0,7.f,b.2,1.8,1.2,1." ++
  "l,1.6,1.1,1.4,2.9,1.2,1.2,2.0,f.3,2.9,9.6,1.2,1.7,2.1,2.l,1.6,1.1,1.4,2.8,2.1,2.2,7.2,4.1,1.4,2." ++
  "9,1.0,g.1,1.5,3.2,1.3,3.1,1.0,1.1,3.1,3.2,3.b,4.4,3.2,1.3,2.0,6.0,e.9,g.c,1.2,1.m,1.f,2.8,1.2,1." ++
  "3,7.1,1.2,2.0,2.3,2.9,g.3,1.7,1.2,1.m,1.9,1.4,2.8,1.2,1.3,7.1,6.1,1.3,2.9,1.2,c.c,1.2,1.1e,1.2,1" ++
  ".4,5.3,7.4,2.9,a.5,1.2,1.h,3.n,1.8,1.0,2.6,3.0,4.5,1.0,1.7,6.9,2.1,d.1l,5.e,1.9,13.1,1.0,1.4,1.n" ++
  ",1.0,1.m,2.4,1.0,1.6,1.9,2.3,w.0,n.1,6.9,b.0,1.0,1.0,4.9,1.z,4.j,1.h,1.z,9.0,1l.21,6.25,2.11,1.0" ++
  ",5.0,2.16,1.98,1.3,2.6,1.0,1.3,2.14,1.3,2.w,1.3,2.6,1.0,1.3,2.e,1.1k,1.3,2.1u,2.2,9.8,e.f,g.2d,2" ++
  ".5,3.h7,2.g,1.p,5.22,3.a,7.l,9.l,b.j,c.c,1.2,1.1,c.2b,3.0,4.1,2.9,x.2,1.a,6.2g,7.16,5.1x,a.u,1.b" ++
  ",4.b,a.13,2.4,b.17,4.p,6.a,11.r,4.1q,1.s,2.a,6.9,d.0,8.d,1.f,1d.24,3.9,h.8,c.37,c.1j,8.9,3.1c,2." ++
  "a,5.16,2.2,g.2,1.12,5.et,2.5,2.11,2.5,2.7,1.0,1.0,1.0,1.u,2.1g,1.6,1.0,3.2,1.6,3.3,2.5,4.c,5.2,1" ++
  ".6,f.1,1d.1,j.0,s.0,d.0,g.c,1f.c,4.0,3.b,h.0,4.0,2.9,1.0,2.5,6.0,1.0,1.0,1.f,2.3,5.4,4.0,h.14,22" ++
  "f.6c,6.8,c.11,1.0,5.0,2.1j,7.0,f.n,9.6,1.6,1.6,1.6,1.6,1.6,1.6,1.6,1.v,ed.2,p.e,1.4,2.4,4.2d,2.1" ++
  ",2.2,1.2m,5.16,1.2l,h.v,1c.f,e8.533,1s.h3g,1v.19,2.7g,3.r,k.1b,4.9,1.36,11.8,2.2u,2.1u,2.1,1.0,1" ++
  ".7,l.1h,4.0,j.1f,c.1x,a.9,6.n,3.0,1.1c,2.z,c.s,3.1s,e.a,6.u,1.1i,9.d,2.9,6.m,3.20,o.2,2.f,2.4,a." ++
  "5,2.5,2.5,9.6,1.6,1.16,1.d,6.3e,1.1,2.9,6.8mb,c.m,4.1c,6is.a5,2.2x,12.6,c.4,5.b,1.c,1.4,1.0,1.1," ++
  "1.1,1.2z,x.3u,6.61,i.1r,2.1h,14.9,6.f,g.f,3.1,o.2,x.0,1.0,3.0,1.0,1.0,1.0,1.3h,j.9,7.p,4.0,1.p,a" ++
  ".2h,3.5,2.5,2.5,2.2,z.b,1.p,1.i,1.1,1.e,2.d,y.3e,1x.1g,3s.0,3m.s,3.1c,f.0,v.v,d.t,5.16,5.t,2.z,4" ++
  ".7,1.4,16.4d,2.9,6.z,4.z,4.13,8.1f,c.a,1.e,1.6,1.1,1.a,1.e,1.6,1.1,3.1f,c.8m,9.l,a.7,o.5,1.15,1." ++
  "8,1x.5,2.0,1.17,1.1,3.0,2.m,a.m,9.u,1t.i,1.1,a.l,a.p,1y.1j,6.1,1s.3,1.1,5.7,1.2,1.s,2.2,4.0,w.s," ++
  "3.s,z.7,1.t,p.1h,a.l,a.i,d.h,32.20,1j.1e,d.1e,d.13,8.9,6.11,3.4,1.m,6y.15,1.1,3.1,g.2,1j.w,a.0,8" ++
  ".w,v.l,16.k,r.m,9.1y,v.f,9.1n,7.0,d.o,7.9,6.1g,1.9,4.3,8.z,2.0,9.1w,4.3,1.c,1.0,z.h,1.10,6.3,1q." ++
  "6,1.0,1.3,1.e,1.9,7.1m,5.9,6.3,1.7,2.1,2.l,1.6,1.1,1.4,1.9,2.1,2.2,2.0,6.0,5.6,2.6,3.4,b.9,1.0,2" ++
  ".0,1.11,1.9,1.0,2.0,1.3,1.7,d.1,t.22,5.9,4.3,u.1x,1.0,8.9,4m.1h,2.8,n.5,y.1s,3.0,b.9,12.1k,7.9,6" ++
  ".j,s.q,2.e,4.9,6.6,55.1m,2t.21,l.7,2.0,2.7,1.1,1.t,1.1,2.8,c.9,1y.7,2.19,2.7,1.1,r.1q,8.0,8.21,3" ++
  ".0,i.20,5j.w,f.9,6.8,1.18,1.8,f.9,o.t,2.l,1.d,21.6,1.1,1.17,3.0,1.1,1.8,8.9,6.5,1.1,1.10,1.1,1.5" ++
  ",7.9,8m.m,9.g,1.14,3.4,d.a,2d.0,27.pl,2u.32,h.5f,218.2o,f.tr,g.l,a.32y,5.g6,5a1.1l,1c6.fs,7.u,1." ++
  "9,6.26,1.9,6.t,2.4,b.1i,9.3,c.9,9.k,5.i,c0.18,3.9,5i.1r,3k.22,4.1k,7.g,1s.1,1.1,b.1,e.4qf,8.yd,1" ++
  "5.9,6w7.3,1.6,1.1,1.82,f.0,t.2,2.0,e.3,8.az,1s4.2y,5.c,3.8,7.9,3.1,381.9,ee.19,2.m,f2.4,3.5,8.7," ++
  "2.6,u.3,44.2,cb.2c,1.1y,1.1,2.0,2.1,2.3,1.b,1.0,1.6,1.1s,1.3,2.7,1.6,1.r,1.3,1.4,1.0,3.6,1.9f,2." ++
  "o,1.o,1.u,1.o,1.u,1.o,1.u,1.o,1.u,1.o,1.7,2.1d,e8.1i,4.1d,8.0,e.0,m.4,1.e,uo.u,6.5,5x.6,1.g,2.6," ++
  "1.1,1.4,5.1p,x.0,34.18,3.d,2.9,4.0,8x.u,h.1l,d2.15,5y.16,dh.6,1.3,1.1,1.e,1.5g,b.6,15.23,4.9,x2." ++
  "3,1.q,1.1,1.0,2.0,1.9,1.3,1.0,1.0,6.0,4.0,1.0,1.0,1.2,1.1,1.0,2.0,1.0,1.0,1.0,1.0,1.1,1.0,2.3,1." ++
  "6,1.3,1.3,1.0,1.9,1.g,5.2,1.4,1.g,2lw.9,sm.wyn,w.37d,6.65,2.4g1,e.5rk,f.h9,1wi.f1,15u.3t6,5.38f," ++
  "f9e8.6n"

/-- The code points with the property `XID_Start`, packed. -/
def packedXIDStart : String :=
  "1t.p,6.p,1b.0,a.0,4.0,5.m,1.u,1.cp,4.b,e.4,7.0,1.0,3l.4,1.1,3.2,1.0,6.0,1.2,1.0,1.j,1.2a,1.3u,8." ++
  "4l,1.11,2.0,6.14,1z.q,4.3,19.16,z.1,1.2q,1.0,f.1,7.1,a.2,2.0,g.0,1.t,t.2g,b.0,o.w,9.1,4.0,5.l,4." ++
  "0,9.0,3.0,n.o,7.a,5.n,1.5,h.15,1m.1h,3.0,i.0,7.9,f.f,4.7,2.1,2.l,1.6,1.0,3.3,3.0,g.0,d.1,1.2,e.1" ++
  ",a.0,8.5,4.1,2.l,1.6,1.1,1.1,1.1,v.3,1.0,j.2,g.8,1.2,1.l,1.6,1.1,1.4,3.0,i.0,f.1,n.0,b.7,2.1,2.l" ++
  ",1.6,1.1,1.4,3.0,u.1,1.2,f.0,h.0,1.5,3.2,1.3,3.1,1.0,1.1,3.1,3.2,3.b,m.0,1g.7,1.2,1.m,1.f,3.0,q." ++
  "2,2.0,2.1,u.0,4.7,1.2,1.m,1.9,1.4,3.0,v.1,1.1,f.1,h.8,1.2,1.14,2.0,g.0,5.2,8.2,o.5,5.h,3.n,1.8,1" ++
  ".0,2.6,1m.1b,1.0,d.6,1m.1,1.0,1.4,1.n,1.0,1.9,1.0,a.0,2.4,1.0,l.3,w.0,1r.7,1.z,r.4,37.16,k.0,g.5" ++
  ",4.3,3.0,3.1,7.2,4.c,c.0,h.11,1.0,5.0,2.16,1.98,1.3,2.6,1.0,1.3,2.14,1.3,2.w,1.3,2.6,1.0,1.3,2.e" ++
  ",1.1k,1.3,2.1u,11.f,g.2d,2.5,3.h7,2.g,1.p,5.22,3.a,7.h,d.i,e.h,e.c,1.2,f.1f,z.0,4.0,1v.2g,7.14,1" ++
  ".0,5.1x,a.u,1d.t,2.4,b.17,4.p,1i.m,9.1g,2a.0,2l.1a,h.7,1i.t,d.1,a.17,q.z,15.2,a.z,2.a,5.16,2.2,1" ++
  "5.3,1.5,1.1,3.0,5.5b,1s.7p,2.5,2.11,2.5,2.7,1.0,1.0,1.0,1.u,2.1g,1.6,1.0,3.2,1.6,3.3,2.5,4.c,5.2" ++
  ",1.6,38.0,d.0,g.c,2t.0,4.0,2.9,1.0,2.5,6.0,1.0,1.0,1.f,2.3,5.4,4.0,h.14,22f.6c,6.3,3.1,c.11,1.0," ++
  "5.0,2.1j,7.0,g.m,9.6,1.6,1.6,1.6,1.6,1.6,1.6,1.6,fa.2,p.8,7.4,2.4,4.2d,6.2,1.2h,1.3,5.16,1.2l,h." ++
  "v,1c.f,e8.533,1s.h3g,1v.19,2.7g,3.f,a.1,k.1a,g.u,2.27,13.8,2.2u,2.1u,2.1,1.0,1.7,l.f,1.2,1.3,1.m" ++
  ",t.1f,e.1d,1q.5,3.0,1.1,b.r,a.m,p.s,7.1a,s.0,g.4,1.9,a.4,1.14,n.2,1.7,k.m,3.0,3.1d,1.0,3.1,2.4,2" ++
  ".0,1.0,o.2,2.a,7.2,c.5,2.5,2.5,9.6,1.6,1.16,1.d,6.36,t.8mb,c.m,4.1c,6is.a5,2.2x,12.6,c.4,5.0,1.9" ++
  ",1.c,1.4,1.0,1.1,1.1,1.2z,x.3u,6.61,i.1r,2.1h,14.9,3b.0,1.0,3.0,1.0,1.0,1.0,1.3h,10.p,6.p,b.1j,2" ++
  ".u,3.5,2.5,2.5,2.2,z.b,1.p,1.i,1.1,1.e,2.d,y.3e,1x.1g,7f.s,3.1c,1b.v,d.t,5.11,a.t,2.z,4.7,1.4,16" ++
  ".4d,i.z,4.z,4.13,8.1f,c.a,1.e,1.6,1.1,1.a,1.e,1.6,1.1,3.1f,c.8m,9.l,a.7,o.5,1.15,1.8,1x.5,2.0,1." ++
  "17,1.1,3.0,2.m,a.m,9.u,1t.i,1.1,a.l,a.p,1y.1j,6.1,1s.0,f.3,1.2,1.s,16.s,3.s,z.7,1.r,r.1h,a.l,a.i" ++
  ",d.h,32.20,1j.1e,d.1e,d.z,12.r,9.m,6y.15,6.1,g.2,1n.s,a.0,8.l,16.h,1a.k,r.m,c.1g,1l.1,2.0,d.18,w" ++
  ".o,q.z,t.0,2.0,8.y,3.0,c.1b,e.3,l.0,1.0,z.h,1.o,j.1,1r.6,1.0,1.3,1.e,1.9,7.1a,12.7,2.1,2.l,1.6,1" ++
  ".1,1.4,3.0,i.0,c.4,u.9,1.0,2.0,1.11,1.0,p.0,1.0,18.1g,i.3,k.2,u.1b,k.1,1.0,54.1a,15.3,10.1b,k.0," ++
  "1n.16,d.0,1z.q,11.6,55.17,38.1r,v.7,2.0,2.7,1.1,1.n,f.0,1.0,2m.7,2.12,g.0,1.0,s.0,a.13,7.0,l.0,b" ++
  ".19,j.0,i.20,5j.w,v.8,1.10,h.0,1d.t,34.6,1.1,1.11,l.0,p.5,1.1,1.v,e.0,93.i,f.0,1.c,1.x,3g.0,27.p" ++
  "l,2u.32,h.5f,218.2o,f.tr,h.5,p.32y,5.g6,5a1.t,1cy.fs,7.u,h.26,h.t,i.1b,g.3,v.k,5.i,c0.18,5v.1r,3" ++
  "k.22,5.0,1u.c,1s.1,1.0,s.4qf,8.yd,15.9,6w7.3,1.6,1.1,1.82,f.0,t.2,2.0,e.3,8.az,1s4.2y,5.c,3.8,7." ++
  "9,4me.2c,1.1y,1.1,2.0,2.1,2.3,1.b,1.0,1.6,1.1s,1.3,2.7,1.6,1.r,1.3,1.4,1.0,3.6,1.9f,2.o,1.o,1.u," ++
  "1.o,1.u,1.o,1.u,1.o,1.u,1.o,1.7,1f8.u,6.5,79.1p,42.18,a.6,g.0,8x.t,i.17,dg.r,6c.t,2.0,dr.6,1.3,1" ++
  ".1,1.e,1.5g,1n.1v,7.0,xg.3,1.q,1.1,1.0,2.0,1.9,1.3,1.0,1.0,6.0,4.0,1.0,1.0,1.2,1.1,1.0,2.0,1.0,1" ++
  ".0,1.0,1.0,1.1,1.0,2.3,1.6,1.3,1.3,1.0,1.9,1.g,5.2,1.4,1.g,3es.wyn,w.37d,6.65,2.4g1,e.5rk,f.h9,1" ++
  "wi.f1,15u.3t6,5.38f"

/-- The binary properties, by their long names. -/
def binaryProperties : List (String × String) := [
  ("ASCII_Hex_Digit", packedASCIIHexDigit),
  ("Alphabetic", packedAlphabetic),
  ("Bidi_Control", packedBidiControl),
  ("Bidi_Mirrored", packedBidiMirrored),
  ("Case_Ignorable", packedCaseIgnorable),
  ("Cased", packedCased),
  ("Changes_When_Casefolded", packedChangesWhenCasefolded),
  ("Changes_When_Casemapped", packedChangesWhenCasemapped),
  ("Changes_When_Lowercased", packedChangesWhenLowercased),
  ("Changes_When_Titlecased", packedChangesWhenTitlecased),
  ("Changes_When_Uppercased", packedChangesWhenUppercased),
  ("Dash", packedDash),
  ("Default_Ignorable_Code_Point", packedDefaultIgnorableCodePoint),
  ("Deprecated", packedDeprecated),
  ("Diacritic", packedDiacritic),
  ("Emoji", packedEmoji),
  ("Emoji_Component", packedEmojiComponent),
  ("Emoji_Modifier", packedEmojiModifier),
  ("Emoji_Modifier_Base", packedEmojiModifierBase),
  ("Emoji_Presentation", packedEmojiPresentation),
  ("Extended_Pictographic", packedExtendedPictographic),
  ("Extender", packedExtender),
  ("Grapheme_Base", packedGraphemeBase),
  ("Grapheme_Extend", packedGraphemeExtend),
  ("Grapheme_Link", packedGraphemeLink),
  ("Hex_Digit", packedHexDigit),
  ("Hyphen", packedHyphen),
  ("IDS_Binary_Operator", packedIDSBinaryOperator),
  ("IDS_Trinary_Operator", packedIDSTrinaryOperator),
  ("IDS_Unary_Operator", packedIDSUnaryOperator),
  ("ID_Compat_Math_Continue", packedIDCompatMathContinue),
  ("ID_Compat_Math_Start", packedIDCompatMathStart),
  ("ID_Continue", packedIDContinue),
  ("ID_Start", packedIDStart),
  ("Ideographic", packedIdeographic),
  ("Join_Control", packedJoinControl),
  ("Logical_Order_Exception", packedLogicalOrderException),
  ("Lowercase", packedLowercase),
  ("Math", packedMath),
  ("Modifier_Combining_Mark", packedModifierCombiningMark),
  ("Noncharacter_Code_Point", packedNoncharacterCodePoint),
  ("Other_Alphabetic", packedOtherAlphabetic),
  ("Other_Default_Ignorable_Code_Point", packedOtherDefaultIgnorableCodePoint),
  ("Other_Grapheme_Extend", packedOtherGraphemeExtend),
  ("Other_ID_Continue", packedOtherIDContinue),
  ("Other_ID_Start", packedOtherIDStart),
  ("Other_Lowercase", packedOtherLowercase),
  ("Other_Math", packedOtherMath),
  ("Other_Uppercase", packedOtherUppercase),
  ("Pattern_Syntax", packedPatternSyntax),
  ("Pattern_White_Space", packedPatternWhiteSpace),
  ("Prepended_Concatenation_Mark", packedPrependedConcatenationMark),
  ("Quotation_Mark", packedQuotationMark),
  ("Radical", packedRadical),
  ("Regional_Indicator", packedRegionalIndicator),
  ("Sentence_Terminal", packedSentenceTerminal),
  ("Soft_Dotted", packedSoftDotted),
  ("Terminal_Punctuation", packedTerminalPunctuation),
  ("Unified_Ideograph", packedUnifiedIdeograph),
  ("Uppercase", packedUppercase),
  ("Variation_Selector", packedVariationSelector),
  ("White_Space", packedWhiteSpace),
  ("XID_Continue", packedXIDContinue),
  ("XID_Start", packedXIDStart)]

/-- The code points with a binary property, by its long name, as ranges. -/
def binaryRanges (name : String) : Option (Array (Nat × Nat)) :=
  (binaryProperties.lookup name).map unpackRanges

end Chatbot.Unicode
