import Chatbot.Unicode.Packed

/-!
# Column widths

A terminal shows each printable character in zero, one or two columns: two for the characters
of East Asian width Wide or Fullwidth (ideographs, kana, Hangul syllables, fullwidth forms and
most emoji), zero for combining marks, most format characters and the Hangul vowels and final
consonants that join a syllable, one for the rest. Controls, surrogates, unassigned code
points, the line and paragraph separators and U+0000 are not printable and take no column.

The table is a partition of all code points (Unicode 15.1), packed as in `Packed`: for each
run its length less one and its class, `0` for a code point that is not printable and `w + 1`
for one of width `w`.
-/

namespace Chatbot.Unicode

/-- The runs of column widths, packed. -/
def packedWidths : String :=
  "v.0,2m.2,w.0,gv.2,33.1,7.2,1.0,5.2,3.0,6.2,0.0,0.2,0.0,j.2,0.0,67.2,6.1,4l.2,0.0,11.2,1.0," ++
  "1d.2,1.0,2.2,0.0,18.1,0.2,0.1,0.2,1.1,0.2,1.1,0.2,0.1,7.0,q.2,3.0,5.2,a.0,f.2,a.1,0.2,0.1," ++
  "19.2,k.1,f.2,0.1,2s.2,6.1,1.2,5.1,1.2,1.1,0.2,3.1,v.2,0.0,1.2,0.1,t.2,q.1,1.0,2g.2,a.1,0.2," ++
  "d.0,16.2,8.1,6.2,1.0,0.1,n.2,3.1,0.2,8.1,0.2,2.1,0.2,4.1,1.0,e.2,0.0,o.2,2.1,1.0,0.2,0.0," ++
  "a.2,4.0,u.2,0.0,1.2,5.0,7.1,15.2,n.1,0.2,v.1,1i.2,0.1,0.2,0.1,3.2,7.1,3.2,0.1,2.2,6.1,9.2," ++
  "1.1,s.2,0.1,1.2,0.0,7.2,1.0,1.2,1.0,l.2,0.0,6.2,0.0,0.2,2.0,3.2,1.0,0.1,3.2,3.1,1.0,1.2,1.0," ++
  "1.2,0.1,0.2,7.0,0.2,3.0,1.2,0.0,2.2,1.1,1.0,n.2,0.1,1.0,1.1,0.2,0.0,5.2,3.0,1.2,1.0,l.2,0.0," ++
  "6.2,0.0,1.2,0.0,1.2,0.0,1.2,1.0,0.1,0.0,2.2,1.1,3.0,1.1,1.0,2.1,2.0,0.1,6.0,3.2,0.0,0.2,6.0," ++
  "9.2,1.1,2.2,0.1,0.2,9.0,1.1,0.2,0.0,8.2,0.0,2.2,0.0,l.2,0.0,6.2,0.0,1.2,0.0,4.2,1.0,0.1,3.2," ++
  "4.1,0.0,1.1,0.2,0.0,1.2,0.1,1.0,0.2,e.0,1.2,1.1,1.0,b.2,6.0,0.2,5.1,0.0,0.1,1.2,0.0,7.2,1.0," ++
  "1.2,1.0,l.2,0.0,6.2,0.0,1.2,0.0,4.2,1.0,0.1,1.2,0.1,0.2,3.1,1.0,1.2,1.0,1.2,0.1,6.0,1.1,0.2," ++
  "3.0,1.2,0.0,2.2,1.1,1.0,h.2,9.0,0.1,0.2,0.0,5.2,2.0,2.2,0.0,3.2,2.0,1.2,0.0,0.2,0.0,1.2,2.0," ++
  "1.2,2.0,2.2,2.0,b.2,3.0,1.2,0.1,1.2,2.0,2.2,0.0,2.2,0.1,1.0,0.2,5.0,0.2,d.0,k.2,4.0,0.1,2.2," ++
  "0.1,7.2,0.0,2.2,0.0,m.2,0.0,f.2,1.0,0.1,0.2,2.1,3.2,0.0,2.1,0.0,3.1,6.0,1.1,0.0,2.2,1.0,0.2," ++
  "1.0,1.2,1.1,1.0,9.2,6.0,9.2,0.1,a.2,0.0,2.2,0.0,m.2,0.0,9.2,0.0,4.2,1.0,0.1,1.2,0.1,4.2,0.0," ++
  "0.1,1.2,0.0,1.2,1.1,6.0,1.2,5.0,1.2,0.0,1.2,1.1,1.0,9.2,0.0,2.2,b.0,1.1,a.2,0.0,2.2,0.0," ++
  "14.2,1.1,3.2,3.1,0.0,2.2,0.0,2.2,0.1,1.2,3.0,d.2,1.1,1.0,p.2,0.0,0.1,1.2,0.0,h.2,2.0,n.2," ++
  "0.0,8.2,0.0,0.2,1.0,6.2,2.0,0.1,3.0,2.2,2.1,0.0,0.1,0.0,7.2,5.0,9.2,1.0,2.2,b.0,1b.2,0.1," ++
  "1.2,6.1,3.0,7.2,7.1,c.2,10.0,1.2,0.0,0.2,0.0,4.2,0.0,n.2,0.0,0.2,0.0,9.2,0.1,1.2,8.1,0.2," ++
  "1.0,4.2,0.0,0.2,0.0,6.1,0.0,9.2,1.0,3.2,v.0,n.2,1.1,q.2,0.1,0.2,0.1,0.2,0.1,d.2,0.0,z.2,3.0," ++
  "d.1,0.2,4.1,0.2,1.1,4.2,a.1,0.0,z.1,0.0,7.2,0.1,5.2,0.0,c.2,10.0,18.2,3.1,0.2,5.1,0.2,1.1," ++
  "1.2,1.1,o.2,1.1,3.2,2.1,f.2,3.1,c.2,0.1,1.2,1.1,5.2,0.1,e.2,0.1,13.2,0.0,0.2,4.0,0.2,1.0," ++
  "1b.2,2n.3,4f.1,20.2,0.0,3.2,1.0,6.2,0.0,0.2,0.0,3.2,1.0,14.2,0.0,3.2,1.0,w.2,0.0,3.2,1.0," ++
  "6.2,0.0,0.2,0.0,3.2,1.0,e.2,0.0,1k.2,0.0,3.2,1.0,1u.2,1.0,2.1,s.2,2.0,p.2,5.0,2d.2,1.0,5.2," ++
  "1.0,ik.2,2.0,2g.2,6.0,h.2,2.1,0.2,8.0,i.2,1.1,2.2,8.0,h.2,1.1,b.0,c.2,0.0,2.2,0.0,1.1,b.0," ++
  "1f.2,1.1,0.2,6.1,7.2,0.1,1.2,a.1,8.2,0.1,1.0,9.2,5.0,9.2,5.0,a.2,4.1,9.2,5.0,2g.2,6.0,4.2," ++
  "1.1,x.2,0.1,0.2,4.0,1x.2,9.0,u.2,0.0,2.1,3.2,1.1,2.2,3.0,1.2,0.1,5.2,2.1,3.0,0.2,2.0,15.2," ++
  "1.0,4.2,a.0,17.2,3.0,p.2,5.0,a.2,2.0,1k.2,1.1,1.2,0.1,1.0,1j.2,0.1,0.2,6.1,0.0,0.1,0.2,0.1," ++
  "1.2,7.1,5.2,9.1,1.0,0.1,9.2,5.0,9.2,5.0,d.2,1.0,u.1,1c.0,3.1,1b.2,0.1,0.2,4.1,0.2,0.1,4.2," ++
  "0.1,9.2,2.0,q.2,8.1,a.2,0.0,1.1,v.2,3.1,1.2,1.1,0.2,2.1,1j.2,0.1,0.2,1.1,2.2,0.1,0.2,2.1," ++
  "1.2,7.0,1b.2,7.1,1.2,1.1,2.0,e.2,2.0,1n.2,6.0,16.2,1.0,a.2,7.0,2.1,0.2,c.1,0.2,6.1,3.2,0.1," ++
  "5.2,0.1,2.2,1.1,0.2,4.0,5b.2,1r.1,7p.2,1.0,5.2,1.0,11.2,1.0,5.2,1.0,7.2,0.0,0.2,0.0,0.2,0.0," ++
  "0.2,0.0,u.2,1.0,1g.2,0.0,e.2,0.0,d.2,1.0,5.2,0.0,i.2,1.0,2.2,0.0,8.2,0.0,a.2,4.1,n.2,1.0," ++
  "4.1,1c.2,4.1,0.0,9.1,1.2,1.0,q.2,0.0,c.2,2.0,w.2,e.0,w.1,e.0,3v.2,3.0,ax.2,1.3,c.2,1.3,59.2," ++
  "3.3,2.2,0.3,1.2,0.3,1e.2,o.0,a.2,k.0,bg.2,1.3,k.2,1.3,1d.2,b.3,16.2,0.3,i.2,0.3,c.2,0.3,7.2," ++
  "1.3,g.2,1.3,4.2,1.3,7.2,0.3,4.2,0.3,k.2,0.3,6.2,1.3,0.2,0.3,3.2,0.3,1.2,0.3,6.2,0.3,3.2,1.3," ++
  "r.2,0.3,y.2,0.3,0.2,0.3,3.2,2.3,0.2,0.3,1o.2,2.3,n.2,0.3,d.2,0.3,nu.2,1.3,1e.2,0.3,3.2,0.3," ++
  "t.2,1.0,v.2,0.0,9j.2,2.1,1.2,4.0,18.2,0.0,0.2,4.0,0.2,1.0,1j.2,6.0,1.2,d.0,0.1,m.2,8.0,6.2," ++
  "0.0,6.2,0.0,6.2,0.0,6.2,0.0,6.2,0.0,6.2,0.0,6.2,0.0,6.2,0.0,v.1,2l.2,x.0,p.3,0.0,2g.3,b.0," ++
  "5x.3,p.0,1l.3,3.1,g.3,0.2,0.0,2d.3,1.0,1.1,2s.3,4.0,16.3,0.0,2l.3,0.0,2b.3,a.0,1b.3,0.0," ++
  "mlo.3,2.0,1i.3,8.0,9n.2,j.0,1a.2,3.1,0.2,9.1,v.2,1.1,27.2,1.1,5.2,7.0,5m.2,4.0,1.2,0.0,0.2," ++
  "0.0,4.2,n.0,f.2,0.1,2.2,0.1,3.2,0.1,o.2,1.1,4.2,0.1,2.0,9.2,5.0,1j.2,7.0,1v.2,1.1,7.0,b.2," ++
  "5.0,h.1,c.2,0.1,11.2,7.1,o.2,a.1,1.2,a.0,0.2,s.3,2.0,2.1,1b.2,0.1,1.2,3.1,1.2,1.1,f.2,0.0," ++
  "a.2,3.0,6.2,0.1,o.2,0.0,14.2,5.1,1.2,1.1,1.2,1.1,8.0,2.2,0.1,7.2,0.1,0.2,1.0,9.2,1.0,v.2," ++
  "0.1,1e.2,0.1,0.2,2.1,1.2,1.1,4.2,1.1,0.2,0.1,0.2,n.0,g.2,1.1,7.2,0.1,9.0,5.2,1.0,5.2,1.0," ++
  "5.2,8.0,6.2,0.0,6.2,0.0,1n.2,3.0,38.2,0.1,1.2,0.1,3.2,0.1,1.0,9.2,5.0,8mb.3,b.0,m.1,3.0," ++
  "1c.1,1kz.0,4xr.2,a5.3,1.0,2x.3,11.0,6.2,b.0,4.2,4.0,0.2,0.1,n.2,0.0,4.2,0.0,0.2,0.0,1.2,0.0," ++
  "1.2,0.0,3g.2,f.0,cc.2,1.0,1h.2,6.0,0.2,v.0,f.2,f.1,9.3,5.0,f.1,y.3,0.0,i.3,0.0,3.3,3.0,4.2," ++
  "0.0,3q.2,1.0,0.1,0.0,2n.3,2l.2,2.0,5.2,1.0,5.2,1.0,5.2,1.0,2.2,2.0,6.3,0.0,6.2,9.0,2.1,1.2," ++
  "1.0,b.2,0.0,p.2,0.0,i.2,0.0,1.2,0.0,e.2,1.0,d.2,x.0,3e.2,4.0,2.2,3.0,18.2,2.0,2f.2,0.0,c.2," ++
  "2.0,0.2,1a.0,18.2,0.1,3l.0,s.2,2.0,1c.2,e.0,0.1,q.2,3.0,z.2,8.0,t.2,4.0,11.2,4.1,4.0,t.2," ++
  "0.0,10.2,3.0,d.2,15.0,4d.2,1.0,9.2,5.0,z.2,3.0,z.2,3.0,13.2,7.0,1f.2,a.0,b.2,0.0,e.2,0.0," ++
  "6.2,0.0,1.2,0.0,a.2,0.0,e.2,0.0,6.2,0.0,1.2,1u.0,8m.2,8.0,l.2,9.0,7.2,n.0,5.2,0.0,15.2,0.0," ++
  "8.2,1w.0,5.2,1.0,0.2,0.0,17.2,0.0,1.2,2.0,0.2,1.0,m.2,0.0,1z.2,7.0,8.2,1b.0,i.2,0.0,1.2,4.0," ++
  "w.2,2.0,q.2,4.0,0.2,1r.0,1j.2,3.0,j.2,1.0,1a.2,2.1,0.0,1.1,4.0,3.1,3.2,0.0,2.2,0.0,s.2,1.0," ++
  "2.1,3.0,0.1,8.2,6.0,8.2,6.0,1r.2,v.0,10.2,1.1,3.0,b.2,8.0,1h.2,2.0,s.2,1.0,q.2,4.0,p.2,6.0," ++
  "3.2,b.0,6.2,27.0,20.2,1i.0,1e.2,c.0,1e.2,6.0,15.2,3.1,7.0,9.2,85.0,u.2,0.0,15.2,0.0,1.1,0.2," ++
  "1.0,1.2,22.0,2.1,13.2,7.0,l.2,a.1,8.2,l.0,h.2,3.1,3.2,11.0,r.2,j.0,m.2,8.0,0.2,0.1,1h.2,e.1," ++
  "6.2,3.0,t.2,0.1,1.2,1.1,0.2,8.0,2.1,1c.2,3.1,1.2,1.1,6.2,0.1,9.0,0.2,1.0,o.2,6.0,9.2,5.0," ++
  "2.1,z.2,4.1,0.2,7.1,0.0,h.2,7.0,y.2,0.1,2.2,8.0,1.1,1f.2,8.1,9.2,3.1,1.2,0.1,f.2,0.0,j.2," ++
  "a.0,h.2,0.0,r.2,2.1,1.2,0.1,0.2,1.1,5.2,0.1,1.2,0.1,1p.0,6.2,0.0,0.2,0.0,3.2,0.0,e.2,0.0," ++
  "a.2,5.0,1a.2,0.1,2.2,7.1,4.0,9.2,5.0,1.1,1.2,0.0,7.2,1.0,1.2,1.0,l.2,0.0,6.2,0.0,1.2,0.0," ++
  "4.2,0.0,1.1,2.2,0.1,3.2,1.0,1.2,1.0,2.2,1.0,0.2,5.0,0.2,4.0,6.2,1.0,6.1,2.0,4.1,3u.0,1j.2," ++
  "7.1,1.2,2.1,0.2,0.1,k.2,0.0,0.2,0.1,2.2,t.0,1e.2,5.1,0.2,0.1,3.2,1.1,0.2,1.1,3.2,7.0,9.2," ++
  "4l.0,1d.2,3.1,1.0,3.2,1.1,0.2,1.1,q.2,1.1,x.0,1e.2,7.1,1.2,0.1,0.2,1.1,3.2,a.0,9.2,5.0,c.2," ++
  "i.0,16.2,0.1,0.2,0.1,1.2,5.1,0.2,0.1,1.2,5.0,9.2,1h.0,q.2,1.0,2.1,1.2,3.1,0.2,4.1,3.0,m.2," ++
  "54.0,1a.2,8.1,0.2,1.1,0.2,2r.0,2a.2,b.0,7.2,1.0,0.2,1.0,7.2,0.0,1.2,0.0,t.2,0.0,1.2,1.0,1.1," ++
  "0.2,0.1,3.2,0.1,2.2,8.0,9.2,1x.0,7.2,1.0,15.2,3.1,1.0,1.1,3.2,0.1,3.2,q.0,0.2,9.1,13.2,5.1," ++
  "1.2,3.1,7.2,0.1,7.0,0.2,5.1,1.2,2.1,19.2,c.1,0.2,1.1,8.2,c.0,20.2,6.0,9.2,6t.0,8.2,0.0,11.2," ++
  "6.1,0.0,5.1,0.2,0.1,5.2,9.0,s.2,2.0,v.2,1.0,l.1,0.0,0.2,6.1,0.2,1.1,0.2,1.1,20.0,6.2,0.0," ++
  "1.2,0.0,11.2,5.1,2.0,0.1,0.0,1.1,0.0,6.1,0.2,0.1,7.0,9.2,5.0,5.2,0.0,1.2,0.0,10.2,0.0,1.1," ++
  "0.0,1.2,0.1,0.2,0.1,0.2,6.0,9.2,8l.0,i.2,1.1,3.2,6.0,1.1,e.2,0.0,z.2,4.1,2.0,1.2,0.1,0.2," ++
  "0.1,m.2,2d.0,0.2,e.0,1d.2,c.0,pm.2,2t.0,32.2,0.0,4.2,a.0,5f.2,217.0,2q.2,c.0,tr.2,g.1,5.2," ++
  "e.1,33d.0,g6.2,6ns.0,fs.2,6.0,u.2,0.0,9.2,3.0,28.2,0.0,9.2,5.0,t.2,1.0,4.1,0.2,9.0,1b.2,6.1," ++
  "e.2,9.0,9.2,0.0,6.2,0.0,k.2,4.0,i.2,j3.0,2i.2,2s.0,22.2,3.0,0.1,1j.2,6.0,3.1,c.2,1r.0,3.3," ++
  "0.1,a.0,1.3,d.0,4qf.3,7.0,yd.3,15.0,8.3,6w6.0,3.3,0.0,6.3,0.0,1.3,0.0,82.3,e.0,0.3,s.0,2.3," ++
  "1.0,0.3,d.0,3.3,7.0,az.3,1s3.0,2y.2,4.0,c.2,2.0,8.2,6.0,9.2,1.0,0.2,1.1,0.2,3.1,3mj.0,19.1," ++
  "1.0,m.1,8.0,37.2,1n.0,6t.2,9.0,12.2,1.0,1p.2,2.1,8.2,f.1,1.2,6.1,t.2,3.1,1o.2,k.0,1t.2,2.1," ++
  "0.2,3d.0,j.2,b.0,j.2,b.0,2e.2,8.0,o.2,3q.0,2c.2,0.0,1y.2,0.0,1.2,1.0,0.2,1.0,1.2,1.0,3.2," ++
  "0.0,b.2,0.0,0.2,0.0,6.2,0.0,1s.2,0.0,3.2,1.0,7.2,0.0,6.2,0.0,r.2,0.0,3.2,0.0,4.2,0.0,0.2," ++
  "2.0,6.2,0.0,9f.2,1.0,83.2,1.0,fl.2,1i.1,3.2,1d.1,7.2,0.1,d.2,0.1,6.2,e.0,4.1,0.0,e.1,un.0," ++
  "u.2,5.0,5.2,5w.0,6.1,0.0,g.1,1.0,6.1,0.0,1.1,0.0,4.1,4.0,1p.2,w.0,0.1,33.0,18.2,2.0,6.1,6.2," ++
  "1.0,9.2,3.0,1.2,8v.0,t.2,0.1,g.0,17.2,3.1,9.2,4.0,0.2,cv.0,r.2,3.1,9.2,kl.0,6.2,0.0,3.2,0.0," ++
  "1.2,0.0,e.2,0.0,5g.2,1.0,8.2,6.1,14.0,1v.2,6.1,0.2,3.0,9.2,3.0,1.2,ls.0,1v.2,23.0,1o.2,5d.0," ++
  "3.2,0.0,q.2,0.0,1.2,0.0,0.2,1.0,0.2,0.0,9.2,0.0,3.2,0.0,0.2,0.0,0.2,5.0,0.2,3.0,0.2,0.0,0.2," ++
  "0.0,0.2,0.0,2.2,0.0,1.2,0.0,0.2,1.0,0.2,0.0,0.2,0.0,0.2,0.0,0.2,0.0,0.2,0.0,1.2,0.0,0.2,1.0," ++
  "3.2,0.0,6.2,0.0,3.2,0.0,3.2,0.0,0.2,0.0,9.2,0.0,g.2,4.0,2.2,0.0,4.2,0.0,g.2,1f.0,1.2,7h.0," ++
  "3.2,0.3,12.2,3.0,2r.2,b.0,e.2,1.0,e.2,0.0,d.2,0.3,0.0,10.2,9.0,3x.2,0.3,1.2,9.3,i.2,1j.0," ++
  "p.2,2.3,c.0,17.3,3.0,8.3,6.0,1.3,d.0,5.3,49.0,w.3,b.2,8.3,0.2,1x.3,0.2,l.3,b.2,16.3,3.2,4.3," ++
  "b.2,g.3,2.2,0.3,2.2,1y.3,0.2,0.3,0.2,56.3,1.2,1q.3,c.2,3.3,0.2,n.3,h.2,0.3,p.2,1.3,c.2,0.3," ++
  "2d.2,2c.3,1b.2,1x.3,5.2,0.3,2.2,2.3,1.2,2.3,3.0,3.3,a.2,1.3,2.0,3.2,8.3,2.0,3a.2,3.0,2m.2," ++
  "5.0,b.3,3.0,0.3,e.0,b.2,3.0,1j.2,7.0,9.2,5.0,13.2,7.0,t.2,1.0,1.2,25.0,b.2,1a.3,0.2,9.3,0.2," ++
  "54.3,2b.2,b.0,d.2,1.0,c.3,2.0,8.3,6.0,19.3,0.0,6.3,7.0,d.3,3.0,8.3,6.0,8.3,6.0,42.2,0.0," ++
  "1i.2,10.0,9.2,sl.0,wyn.3,v.0,37d.3,5.0,65.3,1.0,4g1.3,d.0,5rk.3,e.0,h9.3,1wh.0,f1.3,15t.0," ++
  "3t6.3,4.0,38f.3,f974.0,0.1,t.0,2n.1,3j.0,6n.1,1e6n.0,1ekd.2,1.0,1ekd.2,1.0"

/-- The runs of column widths: first and last code point, and the class. -/
def widthRuns : Array (Nat × Nat × Nat) := unpackRuns packedWidths

/-- The number of columns a printable code point takes, `none` for one that is not
printable. -/
def columnWidth (n : Nat) : Option Nat :=
  match runValue widthRuns n with
  | 0 => none
  | k + 1 => some k

end Chatbot.Unicode
