import ResourceClient.Text.Shift
import ResourceClient.Text.Table

/-! # Characters of domain names

    Before a domain name is used, its characters are mapped: capital letters
    become small ones, characters that differ in their look alone become the
    plain ones, and characters that are not seen are left out.  Some
    characters no domain name holds.  All other characters stay as they are. -/

namespace ResourceClient.Url

/-- Runs of characters that move by the same distance. -/
def shiftRows : List String := [
  "4g,-3k a,-21 8,1,-3k 3,lj 4,-3s 1,-23 6,m,w o,6,w 14,n,2,1 1g,1,2,1 5,2,2,1 8,3,2,1 9,m,2,1",
  "1a,-3d 1,2,2,1 6,-7g 2,5u 1,1,2,1 4,5q 1,1 2,1,5p 2,1 3,27 1,5m 1,5n 1,1 2,5p 1,5r 2,5v 1,5t",
  "1,1 4,5v 1,5x 2,5y 1,2,2,1 6,62 1,1 2,62 3,1 2,62 1,1 2,1,61 2,1,2,1 4,63 1,1 4,1 h,7,2,1",
  "h,8,2,1 m,1 2,-2p 1,-1k 1,j,2,1 14,-3m 2,8,2,1 o,8bv 1,1 2,-4j 1,8bs 3,1 2,-5f 1,1x 1,1z",
  "1,4,2,1 2y,1,2,-g8 1,-23 2,-g1 1,-1n 1,-1m 1,-1h 1,-g0 1,-fz 14,-3h 1,-hh 1,-hb 1,-h7 1,-27",
  "2k,1,-1s 3,-1c 2,38 17,1,2,1 4,-57 2,1 8,-n7 1,38 7,12 1,-k0 1,2,11 4,1s 2,1,1r 3,g,w i,8,w",
  "18,8 1,-u 1,-p 1,-d 1,-6 1,-9 1,-f 1,-m 2,b,2,1 o,-1i 1,-1c 1,-1b 2,-1o 1,-1s 2,1 2,-1i 1,1",
  "3,2,-3m 3,f,28 g,v,w 28,g,2,1 16,q,2,1 1i,f 1,6,2,1 f,1b,2,1 2p,11,1c 1y3,-1 b8,11,5ls",
  "13,5ls 6,5ls 1b,-w l8,5,-8 1oo,-4su 1,-4st 1,-4sk 1,1,-4si 2,-4sj 1,-4sc 1,-4ro 1,r7n 1,1",
  "7,16,-2bk 19,2,-2bk 33,-5or 1,-5l3 1,1,2,-5os 3,4,2,-5os 1,-5ed 2,3,2,-5os 8,-5ot 1,-5cq",
  "1,-5ou 1,-5ot 1,1,-5os 2,-5or 1,-5pe 1,1,-5bo 2,-1w 1,-5ph 1,1,-5pg 2,-5bl 1,1,-5bk 2,-5pi",
  "2,-5pg 1,1,2,-5pf 1,-5ja 2,-5bz 1,1,-1q 2,-5pi 1,1,-5pf 2,-1o 1,-5bf 1,-5ph 1,-1j 1,2,-52j",
  "3,1,-522 2,-5q1 1,-5pt 1,1,-5pr 2,1,-52s 2,-52f 1,1,-52b f,-4zf z,-5e1 1,-5rt 1,-5e0 1,-5ny",
  "1,-5dv 1,-5ru 1,-5du 1,-5dt 1,-5dq 1,2,-5do 3,-18 1,-5cb 1,-5do 1,-11 1,-5cc 1,-5dn 1,-5dp",
  "1,3,-5do 4,-5dm 1,1,-5dd 2,-5je 1,1,-5d9 2,-4c 1,1,-5da 2,-5s1 1,2,-5d8 3,-553 1t,22,2,1",
  "4b,-1m 3,-5vj 2,1b,2,1 2w,7,-8 g,5,-8 g,7,-8 g,7,-8 g,5,-8 h,3,2,-8 f,7,-8 9,-5hh 2,-5hi",
  "2,-5hj 2,-5hk 2,-5gt 2,-5gu 2,-5gv 1n,1,-8 2,-22 1,-5jj 3,-5j9 a,1,2,-2e 1,-5jw 2,-5jx",
  "8,-5kz 5,1,-8 2,-2s 1,-5kc 8,-5kj 5,1,-8 2,-34 1,-5jy 1,-7 3,-68f 9,-3k 1,1,2,-5kd 1,-3i",
  "6,-6ao 1,-6ap 1,-6aq 1,-6ar 1,-6as 1,-6at 1,-6au 1,-6av 1,-6aw 1,-6ax 1,-6ay 7,-1 u,-6bz",
  "1c,-6db h,-6dc 1,-6bs 3,5,-6dc 6,-6dr 1,bb 1,-6db 1,1,-6dx 2,-6c1 1,9,-6ds a,-6e7 1,av",
  "1,-6dr 1,1,-6ed 3,-6cv 1,-6cs 1,-6cj 1,-6cb 1,-5yz 1,-6ct 1,3,-6cr 4,-6cq 1,1,-6co 2v,-6fz",
  "5,-624 3,1,-6g3 2,-6g4 1,-6g5 1,-6g6 1,-6aw 1,-6g7 1,-6g8 1,-6g6 1,1,2,-6g7 6,2,-6g9 3,-6ga",
  "1,-6gb 7,-6ga 2,-5st 2,-6ge 2,-6gv 1,-6di 1,1,-6h6 3,-6h6 1,1,-6h7 2,s 1,-6h2 1,-6h1",
  "1,3,-5et 4,-6hc 3,-5to 1,-5u2 1,-5u3 1,-5tr 1,5t 5,-6ht 1,1,-6hu 2,1,-6hr o,-6if 4,-6i6",
  "5,-6i9 3,-6io 1,1,-6iy 2,-6iq 1,-6iv 4,-6im 5,-6ip 3,-6j4 1,1,-6je 2,-6j6 4,1 bq,1,2jj",
  "8n,8,-75b 2e,p,-76d q,p,-773 q,-796 1ee,1b,1c 2o,1 2,-8af 1,-2xy 1,-89z 3,2,2,1 6,-8bg",
  "1,-8al 1,-8bj 1,-8bi 2,1 3,1 7,-8pe 1,-8p3 1,1,-8cf 2,1d,2,1 2z,1,2,1 7,1 3h,-e 8g,c32",
  "2c,m98 d,64g 1,65j 1,65w 1,664 1,66t 1,680 1,686 1,68p 1,69e 1,6ra 1,6sb 1,6sg 1,6t2 1,6tl",
  "1,6u5 1,6vl 1,6w5 1,6wf 1,70p 1,73a 1,741 1,745 1,74y 1,756 1,75w 1,768 1,76w 1,78b 1,78s",
  "1,79i 1,7uh 1,7wg 1,897 1,89t 1,8a0 1,8aa 1,8ar 1,8cu 1,8q2 1,8rd 1,8uo 1,8va 1,8vs 1,8wd",
  "1,8xu 1,8xw 1,97x 1,986 1,98h 1,98t 1,9c0 1,9c7 1,9cb 1,9fj 1,9fs 1,9g4 1,9gb 1,9hz 1,9if",
  "1,9iw 1,9l3 1,a17 1,a2g 1,a30 1,anj 1,ann 1,apx 1,aqc 1,aqo 1,ar8 1,asa 1,ase 1,azs 1,b0f",
  "1,b1a 1,bth 1,bva 1,bvw 1,bxh 1,by4 1,byc 1,byi 1,bzx 1,c01 1,c0w 1,cuu 1,d78 1,d7j 1,d7n",
  "1,d7q 1,d7x 1,d8e 1,d8f 1,dan 1,dgm 1,dgq 1,dq4 1,dqd 1,drq 1,drw 1,ds4 1,dsb 1,dut 1,duz",
  "1,e1a 1,e1g 1,e2s 1,e38 1,e4i 1,eb2 1,eb8 1,ebo 1,ekq 1,eo7 1,eoc 1,etd 1,evr 1,ex0 1,f7h",
  "1,fb5 1,fr2 1,frs 1,ftc 1,fuq 1,fwl 1,fwv 1,fx0 1,fxw 1,fzz 1,g08 1,g9t 1,g9z 1,ga7 1,gaf",
  "1,gau 1,gb8 1,gbb 1,gdh 1,gdk 1,gdp 1,h4x 1,h5q 1,hiq 1,hj1 1,hjn 1,hrh 1,hrt 1,htr 1,hv0",
  "1,iaq 1,ib4 1,ibi 1,icg 1,idg 1,iiy 1,ij9 1,il3 1,iry 1,iss 1,iyk 1,iz4 1,iz8 1,j5b 1,jae",
  "1,jdu 1,jdz 1,je3 1,k40 1,k48 1,k8j 1,kcs 1,kcu 1,ke4 1,kh0 1,khc 1,khf 1,khl 1,kka 1,kl7",
  "1,klc 1,klp 1,kqb 1,krp 1,krs 1,kwu 1,kww 1,kxe 1,l4d 1,l5o 1,l5u 1,l7r 1,l80 1,l82 1,l8b",
  "1,l94 1,lk2 1,lv5 1,lve 1,lwf 1,lx0 1,lx7 1,lxg 1,lxj 1,lym 1,lyp 1,lz5 1,lz9 1,lzl 1,m0b",
  "1,m0p 1,m0w 1,m2i 1,m2w 1,m2z 17,-9gg 2,-9g4 1g,-10 2,6x5 1,1,6x7 6w,1,-6cx 2,1,2,-689",
  "1,-6cy 2,-689 1,2,-6d0 3,5,-68a 6,-6cm 1,2,-6d7 3,-6cj 1,9,-6d8 a,k,-6b2 m,1,-6dt 2,1,-68w",
  "2,-68t 1,-68s 1,-68o 1,-68l 1,-68k 1,-6du 1,-68i 1,-68h 1,1,-6dw 2,-6dv 1,1,-6du 2,-6dr",
  "1,-6dq 1,4,-6dp 5,-6dn 1,-6dk 1,-6db 1,-6d5 1,-6d1 1,1,-68h 2,2,-6ct 3,1,-6bn 2,-6bl",
  "1,1,-6bd 2,-6bc 1,-6b3 1,-6b1 4,5m6 1,5q1 1,5md 1,7d2 1,5mc 1,5na 1,5mb 1,dcp 1,5of 1,5mm",
  "1,5lx 1,7t8 1,7f6 1,5qz 4l,6x7 1,8qf 1,a4h 1,eh4 p,-6lc 1,1,-6lb 2,2,-6la 3,-6l9 1,1,-6l8",
  "2,4,-6l7 5,o0i 1,ox5 1,pdg 1,qa3 1,qqe 1,r6p 1,s3c 1,szz 1,tga 1,ucx 1,ut8 1,v9j 1,vpu 1,w65",
  "3,t9u 2,5fk 1,5jf 1,5fr 1,76g 1,5jk 1,63s 1,5fh 1,63o 1,5hx 1,6go 1,ada 1,c80 1,be0 1,ae3",
  "1,itf 1,780 1,a51 1,al5 1,ad3 1,dyj 1,6m1 1,cmc 1,hsb 1,dza 1,6cc 1,e2n 1,d5p 1,7o8 1,ij1",
  "1,619 1,6he 1,bih 1,k11 1,5m8 1,647 1,b7k 1,5eu 1,5fs 1,5et 1,8jj 1,6kr 1,6fm 1,831 1,81n",
  "1,dh3 1,5lg 1,hsp 1,6g5 1,7l8 w,-fi 1,-fh 1,-fg 1,-ff 1,1,-fe 2,-fd 1,-fc 1,-fb 1,-fa 1,-f9",
  "1,-f8 1,-f7 1,-f6 1,-f5 1,-f4 1,-f3 1,-f1 1,-f0 1,-ez 1,5,-ey 6,-ew 1,-eu 1,-es 1,-eq",
  "1,4,-eo 5,-en 1,-em 1,5,-el 6,3,-ek mrp,m,2,1 1s,d,2,1 s,-w2a 1,-w29 3p,6,2,1 g,u,2,1 1q,-1",
  "9,1,2,1 4,-r9g 1,4,2,1 d,1 2,-wmg 3,1,2,1 6,9,2,1 k,-wn8 1,-wnj 1,-wnf 1,-wn5 1,-wn8 2,-wlu",
  "1,-wmi 1,-wlx 1,ps 1,7,2,1 g,-1c 1,-wn7 1,-raw 1,1,2,1 4,-wo7 1,7,2,1 g,-wu9 l,-x32 1,-x3j",
  "1,-x3h 1,-x37 1,1 3,-wy9 1,-wx2 o3,-tx 1,-12 1,-xdf 1,-d a,-xcs 7,27,-tzk fbk,-lh4 1,-sul",
  "1,-kzc 1,-ldn 1,-rar 1,-xqr 1,-wm9 1,-hnv 1,-hnw 1,-vjs 1,-ke1 1,-was 1,-vk4 1,-tuf 1,-pt1",
  "1,-o0a 1,-moh 1,-mdz 1,-m56 1,-kn8 1,-s9e 1,-rne 1,-qwt 1,-qbd 1,-n2z 1,-khb 1,-isp 1,-xp5",
  "1,-wpz 1,-s2h 1,-qo3 1,-mpe 1,-hz6 1,-us1 1,-r3r 1,-ms6 1,-m2o 1,-tp8 1,-nke 1,-mbs 1,-uhq",
  "1,-suq 1,-rls 1,-qi7 1,-km6 1,-xif 1,-x2v 1,-wup 1,-tbg 1,-s4e 1,-qoy 1,-pqk 1,-nxv 1,-mr3",
  "1,-moq 1,-l6w 1,-jd2 1,-iiy 1,-i0w 1,-pf3 1,-p8d 1,-of1 1,-n79 1,-k6z 1,-hxd 1,-lt7 1,-voj",
  "1,-ugv 1,-oo4 1,-nuv 1,-qn8 1,-pdp 1,-lfq 1,-jf6 1,-voy 1,-uzt 1,-sah 1,-rjn 1,-rb3 1,-oio",
  "1,-obd 1,-jk6 1,-ww0 1,-nuw 1,-x2w 1,-x3d 1,-p4q 1,-oex 1,-n6v 1,-jj8 1,-lp6 1,-tqk 1,-sbe",
  "1,-lsv 1,-xt1 1,-v3s 1,-ua6 1,-qfu 1,-q2a 1,-wuk 1,-pd5 1,-xie 1,-ud9 1,-xui 1,-rrw 1,-t81",
  "1,-ojs 1,-wq0 1,-vta 1,-prg 1,-n51 1,-lvp 1,-rzq 1,-kw1 1,-ru2 1,-tpx 1,-nf3 1,-tlh 1,-q35",
  "1,-xqh 1,-x73 1,-x4g 1,-smx 1,-olw 1,-nil 1,-luz 1,-khb 1,-wwa 1,-wn2 1,-vm6 1,-uja 1,-t6m",
  "1,-r5y 1,-pcr 1,-jq1 1,-isd 1,-hyp 1,-hx7 1,-wz3 1,-szp 1,-s2d 1,-kyz 1,-umy 1,-u0v 1,-txs",
  "1,-tfb 1,-rcf 1,-qx6 1,-qa3 1,-p8r 1,-of6 1,-nxk 1,-l0y 1,-n1n 1,-ktz 1,-k7l 1,-x39 1,-wze",
  "1,-wkh 1,-r13 1,-mam 1,-lx3 1,-ul5 1,-ucu 1,-tnt 1,-s1j 1,-ors 1,-qia 1,-xqc 1,-w4w 1,-v5v",
  "1,-usx 1,-uc0 1,-qgr 1,-qbp 1,-o45 1,-nze 1,-kfx 1,-ji4 1,-jfv 1,-ja4 1,-xm2 1,-pag 1,-kjn",
  "1,-jk0 1,-u6w 1,-xtg 1,-xcx 1,-v66 1,-v3y 1,-t9h 1,-se5 1,-quq 1,-pz3 1,-n2e 1,-ksn 1,-htj",
  "1,-t31 1,-jo8 1,-x1a 1,-swd 1,-st2 1,-rrd 1,-rhr 1,-qf7 1,-q5w 1,-pk3 1,-on3 1,-j8y 1,-x9g",
  "1,-tyc 1,-jmj 1,-xih 1,-uyk 1,-rn0 1,-l2l 1,-uh9 1,-u51 1,-ssj 1,-qj8 1,-jme 1,-x4k 1,-wr3",
  "1,-v3u 1,-t71 1,-syb 1,-soq 1,-rum 1,-qfy 1,-q2r 1,-o6l 1,-mc8 1,-mbr 1,-kkd 1,-jk8 1,-wx8",
  "1,-rhu 1,-wr4 1,-qvy 1,-qc7 1,-mwm 1,-jm6 1,-ihn 1,-i1g 1,-swt 1,-roq 1,-npq 1,-p4c 1,-p20",
  "1,-orr 1,-qpm 1,-r4y 1,-lus 1,-xtp 1,-ngo 1,-x51 1,-x6h 1,-uor 1,-tv3 1,-oq5 1,-vb3 1,-rtz",
  "1,-t3m 1,-l3g 1,-mgs 1,-jp8 1,-m7z 1,-uns 1,-xcc 1,-wgd 3,-vxy 2,-t5q 3,-x87 1,-qng 1,-pxp",
  "1,-pgc 1,-pff 1,-pf9 1,-pe4 1,-jie 1,-orj 1,-o69 2,-mxa 2,-lyi 3,-kx9 1,-krt 4,-j7f 1,-j73",
  "1,-j5w 1,-i9l 1,-ksw 1,-jnc 1,-xoi 1,-xfu 1,-xd1 1,-x2i 1,-x1s 1,-wys 1,-wih 1,-wfl 1,-wcw",
  "1,-vzt 1,-vwy 1,-v6f 1,-v66 1,-ucp 1,-u6u 1,-u5t 1,-u32 1,-tf6 1,-tb4 1,-t6a 1,-ssf 1,-rta",
  "1,-ros 1,-rhh 1,-r16 1,-qvy 1,-qi0 1,-pmi 1,-phq 1,-phg 1,-phi 1,-phb 1,-ph6 1,-ph0 1,1,-pfp",
  "2,-pas 1,-p90 1,-p06 1,-okj 1,-ojz 1,-oig 1,-oa0 1,-o5y 1,-nsf 1,-nok 1,-nol 1,-nbc 1,-mds",
  "1,-ma3 1,-m01 1,-lyi 1,-ln5 1,-llp 1,-l2o 1,-kz3 1,-jnp 1,-jfu 1,-je7 1,-ueu 1,1sw2 1,-nrp",
  "3,-y16 1,-xbw 1,-xe2 1,-xrn 1,-xf3 1,-xdh 1,-x4f 1,-x31 1,-wkb 1,-wmc 1,-wkh 1,-wih 1,-w0y",
  "1,-vyi 1,-vui 1,-vu3 1,-vmm 1,-vh5 1,-ur4 1,-uqy 1,-umz 1,-ul4 1,-ucu 1,-u9l 1,-ubk 1,-u7v",
  "1,-u96 1,-u55 1,-u3c 1,-ts9 1,-tpu 1,-tod 1,-th6 1,-t99 1,-t4r 1,-t4o 1,-t32 1,-s9o 1,-s7w",
  "1,-rx2 1,-rlp 1,-rm6 1,-rjs 1,-rct 1,-r3i 1,-pva 1,-qy1 1,-quo 1,-qra 1,-qi8 1,-qe4 1,-qco",
  "1,-q6f 1,-q6e 1,-q1o 1,-q18 1,-q0k 1,-py7 1,-pyi 1,-pnj 1,-pa3 1,-p2l 1,-oxf 1,-or8 1,-on0",
  "1,-odv 1,-o8d 1,-nkx 1,-ngl 1,-mrg 1,-met 1,-mcx 1,-mci 1,-m4a 1,-m2q 1,-m40 1,-m2j 1,-m2n",
  "1,-m35 1,-m12 1,-lyu 1,-lo9 1,-l8q 1,-l01 1,-krv 1,-klr 1,-jt6 1,-jqc 1,-jn6 1,-jji 1,-jij",
  "1,-ji8 1,-jgx 1,-iwr 1,-i0i 1,1njv 1,1njo 1,1ptw 1,-11rp 1,-10vv 1,-10uz 1,1vuc 1,1xx6",
  "1,24n0 1,-i39 1,-i17 1z,-1cfy 1,-1cgh 1,1,-1cgf 2,2,-1cg9 3,-1cfz 1,-1cfy 1,-1dku 13,-1cdb",
  "1,-1cdc 1,-1cd3 1,-1cd4 1,-1cd5 1,-1cd6 1,-1cd4 1,-1cd5 1,1,2,-1cd6 1,1,2,-1cd7 3,-1cd8",
  "1,-1cd9 1,-1cdg 1,-1cdh 1,-1cdi 1,-1cdj 1,-1cdf 1,-1cdg 1,-1cdh 1,-1cdi 1,-1cdp 1,-1cdq",
  "1,-1cdr 1,-1cds 1,-1ccm 1,-1ccn 1,1,2,-1cco 1,1,2,-1ccp 3,-1ccq 1,-1ccr 1,-1cdq 1,-1cdr",
  "1,-1cds 1,-1cdt 1,-1cdv 1,-1cdw 1,-1cdx 1,-1cdy 1,-1cdw 1,-1cdx 1,-1cdy 1,1,-1cdz 2,-1ce0",
  "1,-1ce1 1,-1ce2 1,-1cdx 1,-1cdy 1,1,2,-1ce0 1,1,2,-1ce1 3,-1ce8 1,-1ce9 1,-1cdu 1,-1cdv",
  "1,-1ce3 1,-1ce4 1,-1cdh 1,-1cdi 1,-1cdj 1,-1cdk 1,-1cdf 1,-1cdg 1,-1cdh 1,-1cdi 1,-1cdf",
  "1,-1cdg 1,-1cdh 1,-1cdi 1,-1cdl 1,-1cdm 1,-1cdn 1,-1cdo 1,-1cdg 1,1,-1cdh 2,-1cdi 1,-1cdj",
  "1,-1cdk 1,-1cdg 1,1,-1cdh 2,-1cdi 1,-1cdj 1,-1cdk 1,-1cdo 1,-1cdp 1,-1cdq 1,-1cdr 1,-1cd8",
  "1,1,-1cd9 2,-1cda y,-1cfa 1,-1cfb 1,-1cfc 1,-1cfd 1,-1ceo 1,-1cep 1,1,2,-1cer 1,1,2,-1ces",
  "4,-1cer 1,-1ces 1,-1cez 1,-1cf0 1,-1cex 1,-1cey 1,-1ces 1,-1cet 1,-1ceu 1,-1cev 1,-1cin",
  "1,-1cio j,-1cfk 1,-1cfl 1,-1cfm 1,-1cfn ep,-1e5g 1,-14pc 2,1,-1e55 2,-1e5w 1,-1e53 1,1,-14ox",
  "q,-17vh 1,-17vj 1,-1e50 1,-1e51 1,1,-1e6l 2,-1e4c 1,-1e4b 1,1,-14px 2,1,-14q3 2,1,-14qb",
  "2,1,-14qf 2,3,-14qd 6,-1e5o 1,-1e5n 5,-1e5q 1,-1e5r 1,-1e5s 1,-1e78 1,-14r4 3,-1e6x 1,-1e6z",
  "1,-1e6v 1,-1e7q 1,-17wk 1,1,-1e7l 2,-1e5c 1,-1e5b 1,1,-14qx 2,-1e7w 1,-1e7u 1,1,-1e7r",
  "2,-1e7q 1,-1e7c 1,-1e7b 1,-1e7d 2,-1e6k 1,1,-1e85 2,-1e7f l,1,-1d27 2,1,-1d28 2,1,-1d29",
  "2,1,-1d2a 2,1,-1d2b 2,-1d2c 1,-1d2d 1,1,-1d2e 2,1,-1d2f 2,-1d2g 1,-1d2h 1,1,-1d2i 2,1,-1d2j",
  "2,-1d2k 1,-1d2l 1,1,-1d2m 2,-1d2n 1,-1d2o 1,1,-1d2p 2,-1d2q 1,-1d2r 1,1,-1d2s 2,-1d2t",
  "1,-1d2u 1,1,-1d2v 2,-1d2w 1,-1d2x 1,1,-1d2y 2,1,-1d2z 2,1,-1d30 2,1,-1d31 2,1,-1d32 2,-1d33",
  "1,-1d34 1,1,-1d35 2,-1d36 1,-1d37 1,1,-1d38 2,-1d39 1,-1d3a 1,1,-1d3b 2,-1d3c 1,-1d3d",
  "1,1,-1d3e 2,-1d3f 1,-1d3g 1,1,-1d3h 2,-1d3i 1,-1d3j 1,1,-1d3k 2,-1d3l 1,-1d3m 1,1,-1d3n",
  "2,-1d3o 1,-1d3p 1,-1d3q 1,-1d3k 1,-1d3l 1,-1d3m 1,1,-1d3n 2,-1d3o 1,-1d3p 1,1,-1d3q 2,-1d3r",
  "1,-1d3s 1,1,-1d3t 2,-1d3u 1,-1d3v 1,1,-1d3w 2,-1d3x 1,-1d3y 1,1,-1d3z 2,-1d40 1,-1d41",
  "1,1,-1d42 2,-1d43 1,-1d44 1,1,-1d45 2,1,-1d46 2,1,-1d47 2,-1d48 1,-1d49 1,-1d4a d,v,-1ecg",
  "w,p,-1ebk q,z,-1ecg 10,1,-168q 2,-1eer 1,1,-14ye 2,-14yr 1,-14ru 1,-14s4 1,-14ue 1,-14ud",
  "1,-14uc 1,-14ub 1,-14ua 1,-14sp 1,-14so 1,-14sn 1,-14to 1,-14s4 1,-14un 1,-14um 1,-14ul",
  "1,-14uk 1,1,-14uj 2,-14ui 1,-14uh 1,-14ug 1,-14uf 1,-14ue 1,-14ud 1,-14uc 1,-14ub 1,-14ua",
  "1,-14u9 1,-14u8 1,-14u6 1,-14u5 1,-14u4 1,5,-14u3 6,-14u1 1,-14tz 1,-14tx 1,-14tv 1,4,-14tt",
  "5,-14ts 1,-14tr 1,5,-14tq 6,-14tp 1,-14tm 1,1,-14w5 3,1,-1b4x 2,1,2,-1b09 1,-1b4y 2,-1b09",
  "1,2,-1b50 3,5,-1b0a 6,-1b4m 1,2,-1b57 3,-1b4j 1,9,-1b58 d,5,-1b35 8,5,-1b37 8,5,-1b39",
  "8,2,-1b3b 6,1,-1ef2 2,-1eeu 2,-1ef2 1,-1ef4 1,-183h 2,-178m 1,3,-17x5 4,-174d 1,-1737",
  "sy,13,14 4w,z,14 5c,i,2,13 1,4,2,13 c,6,2,13 g,2,2,13 8,13 do,1,-1fht 2,-1fvh 1,-1fjf",
  "1,-1fle 2,1,2,-1fj8 1,-i76 2,-1fja 1,1,-1flh 2,-1a7w 1,-1fli 1,-1fld 1,-1fjb 1,-1fl9 1,-1flc",
  "1,-1flf 1,-1fjt 1,-1fu6 1,-1fju 1,-1flc 1,-1fkk 1,1,-1fjj 2,-1flb 1,16js 1,-iz3 1,-1flc",
  "1,16jq 1,-1fki 1,16jp 1,-1fvu 1,1,-1fl9 2,-1fzo 1,-1fl8 1,16jl 1,1,-1fl7 2,-1fl6 1,-1fk3",
  "1,-1fk6 1,-i86 1,-1fk7 1,-1fl3 1,-17b3 2,-1fkz 1,1,-1fki 2,-1fkt 1,2,-1fqu 3,16j5 1,16jo",
  "xy,1e,1s 5s,l,w 28g,v,w gww,v,w 2o,o,r ily,p,-2iyd q,9,-2j0g 1e8,p,-2kdb q,p,-2ke1 q,p,-2ker",
  "q,c,2,-2kfh 1,2,2,-2kfh 8,8,2,-2kfh h,p,-2kg7 q,p,-2kgx q,1,2,-2khn 3,-2khn 3,-2khn",
  "3,1,-2khn 4,3,-2khn 5,7,-2khn 8,3,-2kid 5,a,2,-2kid 3,2,2,-2kid 8,4,2,-2kid a,p,-2kj3",
  "q,p,-2kjt q,1,-2kkj 3,3,-2kkj 6,7,-2kkj 9,6,-2kkj 8,p,-2kl9 q,1,-2klz 3,3,-2klz 5,4,-2klz",
  "6,-2klz 4,6,-2klz 8,p,-2kmp q,p,-2knf q,p,-2ko5 q,p,-2kov q,p,-2kpl q,p,-2kqb q,p,-2kr1",
  "q,p,-2krr q,p,-2ksh q,p,-2kt7 q,p,-2ktx q,p,-2kun q,p,-2kvd q,-2kqb 1,-2kj2 3,g,-2k8n",
  "h,-2k8x 1,6,-2k8n 7,-2e9m 1,g,-2k9d h,-2k9c 1,6,-2k9d 7,-2eah 1,-2k9z 1,-2k9x 1,-2k9w",
  "1,-2k9l 1,-2k9r 1,-2k9t 1,g,-2ka9 h,-2kaj 1,6,-2ka9 7,-2eb8 1,g,-2kaz h,-2kay 1,6,-2kaz",
  "7,-2ec3 1,-2kbl 1,-2kbj 1,-2kbi 1,-2kb7 1,-2kbd 1,-2kbf 1,g,-2kbv h,-2kc5 1,6,-2kbv 7,-2ecu",
  "1,g,-2kcl h,-2kck 1,6,-2kcl 7,-2edp 1,-2kd7 1,-2kd5 1,-2kd4 1,-2kct 1,-2kcz 1,-2kd1",
  "1,g,-2kdh h,-2kdr 1,6,-2kdh 7,-2eeg 1,g,-2ke7 h,-2ke6 1,6,-2ke7 7,-2efb 1,-2ket 1,-2ker",
  "1,-2keq 1,-2kef 1,-2kel 1,-2ken 1,g,-2kf3 h,-2kfd 1,6,-2kf3 7,-2eg2 1,g,-2kft h,-2kfs",
  "1,6,-2kft 7,-2egx 1,-2kgf 1,-2kgd 1,-2kgc 1,-2kg1 1,-2kg7 1,-2kg9 1,-2kfh 1,-2kfi 3,9,-2l5q",
  "a,9,-2l60 a,9,-2l6a a,9,-2l6k a,9,-2l6u 1mi,8,-2m0w 9,2,-2m0v 3,a,-2m0u b,-2m0s 1,1,-2m0r",
  "2,-1pz5 1,-2lwy 1,-2m0m 1,-2m0l 1,-2lwl 1,-2ly8 1,-2lxd 1,8,-2m1t 9,1,-2m1s 2,1,-2m1q",
  "2,-2m1p 1,5,-2m1o 6,1,-2m1n 2,-2lzq 1,-2m1e 1,-2m1g 1,-2m17 1,-2lz4 1,-1q1n 1,-2lz0 1oz,x,y",
  "zk,1,-2od5 2,-2od2 1,-2od0 2,-2ocd 1,-2od0 1,-2od6 1,-2ocx 1,-2ocf 1,3,-2ocn 4,-2od7 1,-2od2",
  "1,-2ocv 1,-2od8 1,-2ocw 1,-2ode 1,-2odc 1,1,-2odn 2,-2odl 1,-2odk 1,-2odf 1,-2ode 1,-2odd",
  "1,-2oby 1,-2o9v 1,-2oal 1,-2oc0 2,-2oe1 1,-2ody 2,-2od9 3,-2oe2 2,-2odb 1,3,-2odj 4,-2oe3",
  "1,-2ody 1,-2odr 1,-2oe4 1,-2ods 2,-2oe8 1,1,-2oej 2,-2oeh 2,-2oeb 2,-2oe9 7,-2oeu 5,-2oey",
  "2,-2oe7 2,1,2,-2oef 3,-2oez 1,-2oeu 2,-2of0 1,-2oeo 2,-2of4 3,-2ofd 2,-2of7 2,-2of5 2,-2obn",
  "2,-2ods 2,-2oft 1,-2ofq 2,-2of1 3,-2ofu 1,-2ofl 1,-2of3 1,1,2,-2ofb 3,-2ofb 1,-2ofv 1,-2ofq",
  "1,-2ofj 1,-2ofw 1,-2ofk 2,-2og0 1,1,-2ogb 2,-2og9 2,-2og3 1,-2og2 1,-2og1 1,-2oem 2,-2od9",
  "2,1,-2ogp 2,-2ogm 1,-2ogk 1,1,-2ofx 2,-2ogk 1,-2ogq 1,-2ogh 1,-2ofz 2,2,-2og7 3,-2ogr",
  "1,-2ogm 1,-2ogf 1,-2ogs 1,-2ogg 1,-2ogy 1,-2ogw 1,1,-2oh7 2,-2oh5 1,-2oh4 1,-2ogz 1,-2ogy",
  "1,-2ogx 6,-2ohl 1,-2ohi 1,-2ohg 2,-2ogt 1,-2ohg 1,-2ohm 1,-2ohd 1,-2ogv 2,2,-2oh3 3,-2ohn",
  "1,-2ohi 1,-2ohb 1,-2oho 1,-2ohc 1,-2ohu 1,-2ohs 1,1,-2oi3 2,-2oi1 1,-2oi0 1,-2ohv 1,-2ohu",
  "1,-2oht hc,-2q4o 1,-2q4a 4,p,-2q4v 5u,-2gr1 e,-26yt 1,-28ca 1,-29ty 1,-2gr0 1,-2avc 1,-28sb",
  "1,-1z5f 1,-28ry 1,-2aus 1,-267t 1,-241l 1,-26bm 1,-2a4v 1,-27ip 1,-2aa9 1,-26b3 1,-2a6b",
  "1,-21nj 1,-239f 1,-1ym2 1,-28tw 1,-29rg 1,-24gi 1,-26xe 1,-26s3 1,-2azt 1,-2azl 1,-1xwh",
  "1,-27uu 1,-2ayo 1,-29tn 1,-26ug 1,-1ygw 1,-26zi 1,-22ep 1,-227t 1,-29t8 1,-24l1 1,-2625",
  "1,-2627 1,-239h 1,-2a4n 1,-29hg 1,-1xpq l,-27jt 1,-29uq 1wf,9,-2sao 1dsg,-3qo3 1,-3qo9",
  "1,-3qo1 1,-1crl 1,-3qg4 1,-3qdz 1,-3qdn 1,-3qbp 1,-3q8e 1,-3q7k 1,-3q5f 1,-3q64 1,-3vqm",
  "1,-1brn 1,-3q2p 1,-3q2j 1,-3q24 1,-3q1m 1,-1bzq 1,-3vq2 1,-3q25 1,-3q14 1,-1byj 1,-3q0w",
  "1,-3q0k 1,-3qkt 1,-3q0e 1,-3q06 1,-k71 1,-3pyg 1,-3py3 1,-3vpc 1,-3pwl 1,-3pwb 1,-3pv4",
  "1,-3pv0 1,-3vnz 1,-3psu 1,-3pst 1,-3ps3 1,-3pri 1,1,-3pr8 2,-3pqs 1,-3ppf 1,-3pp8 1,-3pp0",
  "1,-3poc 1,1,2,-3po3 1,-3po2 2,-3po4 1,-1b0o 1,-3jyd 1,-3pm4 1,-3plk 1,-1as5 1,-3pla 1,-3pl5",
  "1,-3pkl 1,-3pge 1,-3pj9 1,-3piu 1,-3phz 1,-3pge 1,-3pe3 1,-3pde 1,-3pbk 1,-3pb5 1,-3pa9",
  "1,-3paa 1,-3p9q 1,-3p99 1,-3p92 1,-3p8o 1,-3oz9 1,-3p6u 1,-3oza 1,-3p4t 1,-3p3v 1,-3pzd",
  "1,-3omb 1,-3ouc 1,-3otb 1,-3osn 1,-3owa 1,-3oro 1,-3orq 1,-3ooc 1,-18xh 1,-3omg 1,-3omc",
  "1,-3oly 1,-3olf 1,-3ol8 1,-3ojh 1,-18l4 1,-18jb 1,-3ofq 1,-3oeg 1,-3oe5 1,-3ogd 1,-3ocg",
  "1,-3vcp 1,-3vcc 1,-3o81 1,-3o6k 1,-3o6l 1,-17z8 1,-3o2y 1,-3o2e 1,-3o20 1,-3o1p 1,-17q1",
  "1,-3o1f 1,-3o19 1,-3ndt 1,-3o0j 1,-3v91 1,-3nyv 1,-3nyi 1,-3nw9 1,-3nxp 1,1,2,-176f 1,-3nsp",
  "2,-3nrk 1,-3nro 1,-3nr8 1,1,-3nog 2,-3v4k 1,-3nnr 1,-3nml 1,-3nm1 1,-3nku 1,-3v3a 1,-16h2",
  "1,-3v2m 1,-3niz 1,-3nix 1,-3niv 1,-3nic 1,-gsd 1,-3ngy 1,-165c 1,-165d 1,-3gk2 1,-3ng2",
  "1,-3ng3 1,-3v0v 1,-1333 1,-try 1,-3nef 1,-3ne7 1,-3v08 1,-3ncy 1,-3nbk 1,-3nbb 1,-3nae",
  "1,-3n6n 1,-3uxz 1,-3uyu 1,-3n67 1,-15g0 1,-3n4u 1,-3n1a 1,-3n17 1,-3n16 1,-3n19 1,-3n00",
  "1,-3mzh 1,-3myi 1,-3myx 1,-3myn 1,-3mxd 1,-3mwu 1,-3mwr 1,-3mw2 1,-3mvs 1,-3mtz 1,-3mro",
  "1,-3mqq 1,-3mnb 1,-14mk 1,-3mnw 1,-3mpq 1,-3mmr 1,-3mm1 1,-3mjd 1,-14gd 1,-3mhp 1,-3mkb",
  "1,-3ml4 1,-3us4 1,-3mfu 1,-3mfa 1,-3meg 1,-3mfj 1,-3uqj 1,-3m9l 1,-3m8t 1,-13nk 1,-3m5k",
  "1,-3lxw 1,-3m2s 1,-3ulx 1,-3m0u 1,-3umg 1,-3unh 1,-3q68 1,-3q66 1,-3lxw 1,-3m0p 1,-3gvd",
  "1,-3svy 1,-3lxd 1,-3lxa 1,-3lx5 1,-3lvh 1,-3lvt 1,-12xm 1,-3ul1 1,-3lr9 1,-3luj 1,-3lov",
  "1,-3lnh 1,-12t2 1,-3lna 1,-3lqe 1,-3ljm 1,-3uiy 1,-3lie 1,-3lfq 1,-3lds 1,-3l8j 1,-12dl",
  "1,-3l76 1,-3ufq 1,-3l5a 1,-11zd 1,-3l3x 1,-3uec 1,-3l35 1,-3l1x 1,1,-3l17 2,-11m2 1,-17fx",
  "1,-11j3 1,-3kx8 1,-116n 1,-3ku5 1,-3kts 1,-3kwn 1,-3krt 1,-3kqq 1,-3kp6 1,-3kqp 1,-3kpm",
  "1,-3kp8 1,-3kow 1,-1148 1,-3kr7 1,-3kk9 1,-3kij 1,-3u8n 1,-3kg0 1,-3kg5 1,-10sc 1,-3klx",
  "1,-3kbl 1,-10oi 1,-10n7 1,-3k98 1,-3k62 1,-3k6u 1,-3k6y 1,-3u68 1,-3k5p 1,-3k4b 1,-3k4i",
  "1,-3k31 1,-1c6u 1,-3jyv 1,-103e 1,-3jwi 1,-zuc 1,-3jso 1,-3jsc 1,-3jrm 1,-zdn 1,-3jqc",
  "1,-3jps 1,-z5d 1,-yz7 1,-3jji 1,-3jj2 1,-3tz2 1,-3jie 1,-3tys 1,-3tyt 1,-3jdz 1,-3jdf",
  "1,-3jcv 1,-3jcc 1,-3jag 1,-3tw8 1,-3j80 1,-y67 1,-3j7c 1,-y3p 1,-3j60 1,-16l6 1,-3j1m 1,-xi2",
  "1,-xhg 1,-xdl 1,-3tqa 1,-3tpz 1,-3ivg 1,-x8u 1,-x8w 1,-x7u 1,-x75 1,1,-3iuf 2,-3iug 1,-3ita",
  "1,-3tow 1,-3irj 1,-3tol 1,-3tme 1,-wmo 1,-3im8 1,-3ikj 1,-3iis 1,-3tke 1,-w8c 1,-3if1 1,-w56",
  "1,-w40 1,-3idj 1,-3ib0 1,-3tih 1,-3i8p 1,-3i8g 1,-3i8c 1,-vkw 1,-vcm 1,-vcn 1,-3i41 1,-3tcu",
  "1,-v5i 1,-3hy4 1,-3hy2 1,-3tbx 1,-uzp 1,-3hqs 1,-3t8n 1,-3hq8 1,-3hqe 1,-3hpm 1,-ued 1,-3hmx",
  "1,-3t64 1,-3hk7 1,-3hil 1,-3hgr 1,-3t4t 1,-tvu 1,-tv0 1,-3t3v 1,-tr0 1,-3h8c 1,-to9 1,-3h7n",
  "1,-3h4v 1,-3h4l 1,-tcx 1,-tax 1,-3h25 1,-t7a 1,-3h1r 1,-134x 1,-3t0s 1,-3h00 1,-3gxs 1,-3szd",
  "1,-3gw7 1,-3oi9 1,-stc 1,-ssz 1,-133q 1,-133i 1,-3gqy 1,-3gqw 1,-3e27 1,-3swz 1,-3gn2",
  "1,-3gn9 1,-3gms 1,-3q3j 1,-3gma 1,-3gm9 1,-3gm0 1,-3gkw 1,-s4b 1,-3gkz 1,-3gjg 1,-3ghj",
  "1,-3gfi 1,-3gjd 1,-3gf4 1,-3gdz 1,-3gaw 1,-3gi5 1,-3gev 1,-3geu 1,-3gef 1,-rxq 1,-rp6 1,-rtd",
  "1,-3ssc 1,-3g6v 1,-3g6u 1,-3g5w 1,-qg1 1,-3g3s 1,-rcx 1,-3sr5 1,-3sr2 1,-r9b 1,-r1b 1,-3sqv",
  "1,-3fxf 1,-3fx4 1,-3fwu 1,-3fwt 1,-3fv2 1,-3fw0 1,-3fsb 1,-3ftk 1,-3fpe 1,-3fro 1,-3fpu",
  "1,-3fp4 1,-3so8 1,-3fmn 1,-3fls 1,-3snd 1,-3fj7 1,-3fj5 1,-py6 1,-3ffz 1,-3fft 1,-3slv",
  "1,-3ff3 1,-3w27 1,-pi5 1,-pd2 1,-3si7 1,-3shz 1,-3f3j 1,-3f1f 1,-3ex3 1,-3erh 1,-oq3 1,-3ep5",
  "1,-3eok 1,-3em3 1,-3ejk 1,-o89 1,-1brp 1,-3ehb 1,-3ehr 1,-3egc 1,-1blr 1,-3ea2 1,-3e7b",
  "1,-mxa 1,-mwk 1,-3dxq 1,-3dv6 1,-3dub 1,-mnr 1,-3du3 1,-3dm7 1,1,-3dht 2,-3dke 1,-3d9u",
  "1,-3d93 1,-lpv 1,-3cyr 1,-3ryy 1,-3cxl 1,-lfe 1,-3rws 1,-3cq8 1,-3o02 1,-3cnm 1,-koh 1,-kil",
  "1,-3rt6 1,-3rsz 1,-3cii 1,-k4x 1,-3rre 1,-k13 1,-3chf 1,-3chg 1,-3cgn 1,-jt7 1,-3cbk 1,-3ro0",
  "1,-3c9n 1,-3c66 1,-3c5g 1,-3c3t 1,-3rju 1,-iqh 1,-3bw8 1,-3bnv 1,-3bin 1,-3rcv 1,-3rc1",
  "1,-3bfs 1,-hmq 1,-3rbt 1,-hl9 1,-hdx 1,-hab 1,-3b6i 1,-3r9c 1,-3b4u 1,-3b4q 1,-3b4k 1,-3b4b",
  "1,-3b45 1,-3b35 1,-gm5"]

/-- Characters that become several. -/
def expansionRows : List String := [
  "4o,w,lk 7,w,lg 5,w,ld 4,w,mf 4,1d,6dg,1g 1,1d,6dg,1e 1,1f,6dg,1g 36,2x,lj 2,2x,2y 1,2x,2y",
  "c,30,53 1,30,53 9,jg,32 3f,2s,am 1,2s,am 1,2s,am 1,30,2y 1,30,2y 1,30,2y 1,32,2y 1,32,2y",
  "1,32,2y 11,2s,3e 1,2s,3e 1,2s,3e 6d,w,li 1,w,lj 1,w,lm 1,w,mg 1,w,lf 1,w,ln 2v,lk,ld 1i,w,qh",
  "a,w,ld 1,w,lk,ld ea,12d,136 6m,17r,19w 1,18o,19w 1,1c7,19w 1,18q,19w kg,1sl,1to 1,1sm,1to",
  "1,1sn,1to 1,1ss,1to 1,1sx,1to 1,1sy,1to 1,1t7,1to 1,1tb,1to 3h,1wh,1x8 1,1wi,1x8 2,1wv,1x8",
  "2c,20i,20s 3,20o,20s z,1zq,20s 1,1zr,20s 1,1zw,20s 3,20b,20s 72,275,27w 1,276,27w k6,2tp,2sy",
  "3k,2x9,2wi 15,2wb,2vt 1,2wb,2w1 2u,30i,33r a,30s,33r 5,30x,33r 5,312,33r 5,317,33r d,30g,33p",
  "a,31t,31u 2,31t,31w 1,33m,328 1,33m,31t,328 1,33n,328 1,33n,31t,328 8,31t,328 i,32q,33r",
  "a,330,33r 5,335,33r 5,33a,33r 5,33f,33r d,32o,33p 2xt,2p,ji 6e,64g,qh 1,64h,qh 1,64i,qh",
  "1,64j,qh 1,64k,qh 1,64l,qh 1,64m,qh 1,64n,qh 1,64g,qh 1,64h,qh 1,64i,qh 1,64j,qh 1,64k,qh",
  "1,64l,qh 1,64m,qh 1,64n,qh 1,65c,qh 1,65d,qh 1,65e,qh 1,65f,qh 1,65g,qh 1,65h,qh 1,65i,qh",
  "1,65j,qh 1,65c,qh 1,65d,qh 1,65e,qh 1,65f,qh 1,65g,qh 1,65h,qh 1,65i,qh 1,65j,qh 1,674,qh",
  "1,675,qh 1,676,qh 1,677,qh 1,678,qh 1,679,qh 1,67a,qh 1,67b,qh 1,674,qh 1,675,qh 1,676,qh",
  "1,677,qh 1,678,qh 1,679,qh 1,67a,qh 1,67b,qh 3,67k,qh 1,q9,qh 1,q4,qh 3,69i,qh 5,q9,qh",
  "1,w,lv 2,w,lv 1,w,n6 1,w,lk,n6 1,67o,qh 1,qf,qh 1,q6,qh 3,69y,qh 5,qf,qh 1,w,lv,lc 1,w,lv,ld",
  "1,w,lv,n6 e,w,lw,lc 1,w,lw,ld 1,w,lw,n6 e,w,lk,lc 1,w,lk,ld 4,67w,qh 1,qx,qh 1,r2,qh",
  "3,6ba,qh 5,qx,qh 1,w,ld 1,w,lw p,w,mr s,6cy,6cy 1,6cy,6cy,6cy 2,6d1,6d1 1,6d1,6d1,6d1 5,x,x",
  "2,w,lh 9,1r,1r 1,1r,x 1,x,1r e,6cy,6cy,6cy,6cy 29,36,37 2g,2p,1b,2r 1,2p,1b,37 2,4w,2r",
  "2,2r,1b,33 1,2r,1b,39 3,4w,2u d,32,33 a,37,31 1,38,2t,30 1,38,31 p,2u,2p,3c l,1d,6dg,1j",
  "1,1d,6dg,1l 1,1d,6dg,1d,1c 1,1d,6dg,1f 1,1e,6dg,1f 1,1d,6dg,1h 1,1e,6dg,1h 1,1f,6dg,1h",
  "1,1g,6dg,1h 1,1d,6dg,1i 1,1h,6dg,1i 1,1d,6dg,1k 1,1f,6dg,1k 1,1h,6dg,1k 1,1j,6dg,1k 1,1d,6dg",
  "2,2x,2x 1,2x,2x,2x 1,2x,3a 2,3a,2x 1,3a,2x,2x 1,3a,2x,2x,2x 1,2x,3c 2,3c,2x 1,3c,2x,2x",
  "6,2x,2x 1,2x,2x,2x 1,2x,3a 2,3a,2x 1,3a,2x,2x 1,3a,2x,2x,2x 1,2x,3c 2,3c,2x 1,3c,2x,2x",
  "e,1c,6dg,1f 4j,6qz,6qz 1,6qz,6qz,6qz 2,6r2,6r2 1,6r2,6r2,6r2 ft,1d,1c 1,1d,1d 1,1d,1e",
  "1,1d,1f 1,1d,1g 1,1d,1h 1,1d,1i 1,1d,1j 1,1d,1k 1,1d,1l 1,1e,1c 1,14,1d,15 1,14,1e,15",
  "1,14,1f,15 1,14,1g,15 1,14,1h,15 1,14,1i,15 1,14,1j,15 1,14,1k,15 1,14,1l,15 1,14,1d,1c,15",
  "1,14,1d,1d,15 1,14,1d,1e,15 1,14,1d,1f,15 1,14,1d,1g,15 1,14,1d,1h,15 1,14,1d,1i,15",
  "1,14,1d,1j,15 1,14,1d,1k,15 1,14,1d,1l,15 1,14,1e,1c,15 l,14,2p,15 1,14,2q,15 1,14,2r,15",
  "1,14,2s,15 1,14,2t,15 1,14,2u,15 1,14,2v,15 1,14,2w,15 1,14,2x,15 1,14,2y,15 1,14,2z,15",
  "1,14,30,15 1,14,31,15 1,14,32,15 1,14,33,15 1,14,34,15 1,14,35,15 1,14,36,15 1,14,37,15",
  "1,14,38,15 1,14,39,15 1,14,3a,15 1,14,3b,15 1,14,3c,15 1,14,3d,15 1,14,3e,15",
  "11z,6qz,6qz,6qz,6qz 2w,1m,1m,1p 1,1p,1p 1,1p,1p,1p 2u,8gt,mw 14v,w,9ll 1,w,9lm 3,9l4,9l6",
  "2o,9mb,9mw 75,14,3cw,15 1,14,3cy,15 1,14,3cz,15 1,14,3d1,15 1,14,3d2,15 1,14,3d3,15",
  "1,14,3d5,15 1,14,3d7,15 1,14,3d8,15 1,14,3da,15 1,14,3db,15 1,14,3dc,15 1,14,3dd,15",
  "1,14,3de,15 1,14,xz4,15 1,14,yvs,15 1,14,zc4,15 1,14,108s,15 1,14,10p4,15 1,14,115g,15",
  "1,14,1224,15 1,14,12ys,15 1,14,13f4,15 1,14,14bs,15 1,14,14s4,15 1,14,158g,15 1,14,15os,15",
  "1,14,1654,15 1,14,13p8,15 1,14,1350,13ic,15 1,14,1350,16f8,15 2,14,feo,15 1,14,fik,15",
  "1,14,fex,15 1,14,h5n,15 1,14,fis,15 1,14,g31,15 1,14,fer,15 1,14,g2z,15 1,14,fh9,15",
  "1,14,gg1,15 1,14,kco,15 1,14,m7f,15 1,14,ldg,15 1,14,kdk,15 1,14,ssx,15 1,14,h7j,15",
  "1,14,k4l,15 1,14,kkq,15 1,14,kcp,15 1,14,ny6,15 1,14,glp,15 1,14,mm1,15 1,14,rs1,15",
  "1,14,nz1,15 1,14,gc4,15 1,14,fkz,15 1,14,gos,15 1,14,i1y,15 1,14,nhf,15 1,14,flt,15",
  "1,14,rt3,15 1,14,ggk,15 1,14,nzh,15 1,14,fm9,15 1,14,pnu,15 1,14,po3,15 d,34,38,2t 1,1e,1d",
  "1,1e,1e 1,1e,1f 1,1e,1g 1,1e,1h 1,1e,1i 1,1e,1j 1,1e,1k 1,1e,1l 1,1f,1c 1,1f,1d 1,1f,1e",
  "1,1f,1f 1,1f,1g 1,1f,1h t,14c8,y5c 1,13p8,13dk 1g,1f,1i 1,1f,1j 1,1f,1k 1,1f,1l 1,1g,1c",
  "1,1g,1d 1,1g,1e 1,1g,1f 1,1g,1g 1,1g,1h 1,1g,1i 1,1g,1j 1,1g,1k 1,1g,1l 1,1h,1c 1,1d,kco",
  "1,1e,kco 1,1f,kco 1,1g,kco 1,1h,kco 1,1i,kco 1,1j,kco 1,1k,kco 1,1l,kco 1,1d,1c,kco",
  "1,1d,1d,kco 1,1d,1e,kco 1,2w,2v 1,2t,36,2v 1,2t,3a 1,30,38,2s 1c,fl0,gp8 1,9lu,9n5,9oc,9mw",
  "1,9lu,9nv,9n9,9lt 1,9lu,9o3,9ne,9lu 1,9lu,9oc,9nv 1,9lw,9mz,9o3,9m8 1,9lw,9o3,9mp",
  "1,9ly,9m1,9o3 1,9m0,9mh,9m7,9oc,9mx 1,9m0,9oc,9m3,9oc 1,9m2,9o3,9mh 1,9m2,9oc,9nk",
  "1,9m3,9lw,9nu 1,9m3,9nt,9mr,9mw 1,9m3,9nx,9nu,9oc 1,9m4,9nx,9o3 1,9m4,9o3,9ni 1,9m6,9m4",
  "1,9m6,9mz,9oc 1,9m5,9np,9nu,9oc 1,9m6,9nv,9mo,9oc 1,9m5,9nx 1,9m5,9nx,9m8,9nt,9nk",
  "1,9m5,9nx,9nl,9oc,9mw,9nv 1,9m5,9nx,9nz,9mr,9mw 1,9m8,9nt,9nk 1,9m8,9nt,9nk,9mw,9o3",
  "1,9m7,9nv,9mk,9lw,9nx 1,9m7,9nx,9oc,9n1 1,9m9,9oc,9mh 1,9mb,9nv,9my 1,9mb,9oc,9nh",
  "1,9md,9lw,9m7,9nv 1,9md,9o3,9mp,9oc,9nk 1,9mf,9nu,9o3,9m8 1,9mj,9o3,9mp 1,9mj,9o3,9mw",
  "1,9mo,9oc,9mh 1,9mv,9mf 1,9mx,9nv 1,9mw,9o3 1,9my,9n2 1,9n2,9mr,9mw 1,9n3,9lw,9ms",
  "1,9n5,9oc,9mj,9o3,9mw 1,9n5,9oc,9ms 1,9n4,9oc,9nw,9nv 1,9n8,9lu,9mh,9mw,9nv 1,9n8,9m7,9nv",
  "1,9n8,9mb 1,9n7,9nv 1,9n9,9lt,9nt,9mr,9mx 1,9n9,9lv,9oc,9mw 1,9na,9mr,9mf,9lz,9nv",
  "1,9n9,9nt,9o3 1,9nc,9m7,9mn,9oc,9nv 1,9ne,9ml 1,9ne,9mz,9n6 1,9nc,9nv,9ms 1,9ne,9o3,9mh",
  "1,9ne,9oc,9mg 1,9nd,9oc,9mn 1,9nh,9lw,9o3,9mw 1,9ng,9nv,9mw 1,9nf,9o3 1,9nh,9o3,9mx",
  "1,9nf,9oc,9nv 1,9nf,9oc,9o3 1,9ni,9lw,9m7,9nx 1,9ni,9lw,9nv 1,9ni,9mr,9n3 1,9ni,9nv,9m7",
  "1,9ni,9o3,9mf,9nr,9o3 1,9nj,9m7,9nx,9o3 1,9nj,9nu 1,9nj,9nu,9n4,9oc,9nv 1,9nl,9m4",
  "1,9nl,9m4,9mw,9o3 1,9nl,9oc,9mw,9nv 1,9no,9oc,9mx 1,9no,9oc,9nv 1,9nq,9lu,9o3",
  "1,9nu,9mr,9mw,9nv 1,9nu,9nt 1,9nv,9n8,9oc 1,9nv,9oc,9na,9nv 1,9nw,9nk 1,9nw,9o3,9mw,9ma,9o3",
  "1,9nz,9mr,9mw 1,1c,m9l 1,1d,m9l 1,1e,m9l 1,1f,m9l 1,1g,m9l 1,1h,m9l 1,1i,m9l 1,1j,m9l",
  "1,1k,m9l 1,1l,m9l 1,1d,1c,m9l 1,1d,1d,m9l 1,1d,1e,m9l 1,1d,1f,m9l 1,1d,1g,m9l 1,1d,1h,m9l",
  "1,1d,1i,m9l 1,1d,1j,m9l 1,1d,1k,m9l 1,1d,1l,m9l 1,1e,1c,m9l 1,1e,1d,m9l 1,1e,1e,m9l",
  "1,1e,1f,m9l 1,1e,1g,m9l 1,2w,34,2p 1,2s,2p 1,2p,39 1,2q,2p,36 1,33,3a 1,34,2r 1,2s,31",
  "1,2s,31,1e 1,2s,31,1f 1,2x,39 1,inn,jdc 1,k6l,gp8 1,hlz,l7n 1,k5q,lh7 1,kkq,irz,fmi,ny6",
  "1,34,2p 1,32,2p 1,qk,2p 1,31,2p 1,2z,2p 1,2z,2q 1,31,2q 1,2v,2q 1,2r,2p,30 1,2z,2r,2p,30",
  "1,34,2u 1,32,2u 1,qk,2u 1,qk,2v 1,31,2v 1,2z,2v 1,2w,3e 1,2z,2w,3e 1,31,2w,3e 1,2v,2w,3e",
  "1,38,2w,3e 1,qk,30 1,31,30 1,2s,30 1,2z,30 1,2u,31 1,32,31 1,qk,31 1,31,31 1,2r,31 1,2z,31",
  "1,31,31,1e 1,2r,31,1e 1,31,1e 1,2z,31,1e 1,31,31,1f 1,2r,31,1f 1,31,1f 1,2z,31,1f",
  "1,31,6qd,37 1,31,6qd,37,1e 1,34,2p 1,2z,34,2p 1,31,34,2p 1,2v,34,2p 1,36,2p,2s",
  "1,36,2p,2s,6qd,37 1,36,2p,2s,6qd,37,1e 1,34,37 1,32,37 1,qk,37 1,31,37 1,34,3a 1,32,3a",
  "1,qk,3a 1,31,3a 1,2z,3a 1,31,3a 1,34,3b 1,32,3b 1,qk,3b 1,31,3b 1,2z,3b 1,31,3b 1,2z,qx",
  "1,31,qx 2,2q,35 1,2r,2r 1,2r,2s 1,2r,6qd,2z,2v 2,2s,2q 1,2v,3d 1,2w,2p 1,2w,34 1,2x,32",
  "1,2z,2z 1,2z,31 1,2z,38 1,30,31 1,30,32 1,30,33,2v 1,30,3c 1,31,2q 1,31,2x,30 1,31,33,30",
  "1,34,2w 2,34,34,31 1,34,36 1,37,36 1,37,3a 1,3b,2q 1,3a,6qd,31 1,2p,6qd,31 1,1d,k4l 1,1e,k4l",
  "1,1f,k4l 1,1g,k4l 1,1h,k4l 1,1i,k4l 1,1j,k4l 1,1k,k4l 1,1l,k4l 1,1d,1c,k4l 1,1d,1d,k4l",
  "1,1d,1e,k4l 1,1d,1f,k4l 1,1d,1g,k4l 1,1d,1h,k4l 1,1d,1i,k4l 1,1d,1j,k4l 1,1d,1k,k4l",
  "1,1d,1l,k4l 1,1e,1c,k4l 1,1e,1d,k4l 1,1e,1e,k4l 1,1e,1f,k4l 1,1e,1g,k4l 1,1e,1h,k4l",
  "1,1e,1i,k4l 1,1e,1j,k4l 1,1e,1k,k4l 1,1e,1l,k4l 1,1f,1c,k4l 1,1f,1d,k4l 1,2v,2p,30",
  "13b5,2u,2u 1,2u,2x 1,2u,30 1,2u,2u,2x 1,2u,2u,30 1,37,38 1,37,38 d,12s,12u 1,12s,12d",
  "1,12s,12j 1,132,12u 1,12s,12l 6,15l,14k 2,16a,14n b,161,14x 1,161,14y 1,161,14s,14x",
  "1,161,14s,14y 1,15c,14n 1,15c,14o 1,15c,14s 1,15d,14s 1,15e,14s 1,15f,14s 1,15g,14s",
  "1,15h,14s 1,15i,14s 2,15k,14s 1,15l,14s 1,15m,14s 1,15n,14s 1,15o,14s 2,15q,14s 2,15s,14s",
  "1,15t,14s 2,15v,14s 1,15w,14s 2,15y,14s 1,15z,14s 1,160,14s 1,161,14s 1,162,14s 1,15h,14p",
  "1,15d,14v 1,15n,14v 1,15w,14v 1,15c,15o 3y,1c7,19w d,17q,17r 1,17q,17r 1,17q,1cl 1,17q,1cl",
  "1,17q,18o 1,17q,18o 1,17q,1c7 1,17q,1c7 1,17q,1c6 1,17q,1c6 1,17q,1c8 1,17q,1c8 1,17q,1cg",
  "1,17q,1cg 1,17q,1cg 1,17q,18p 1,17q,18p 1,17q,18p 5,17q,17w 1,17q,17x 1,17q,18l 1,17q,18p",
  "1,17q,18q 1,17s,17w 1,17s,17x 1,17s,17y 1,17s,18l 1,17s,18p 1,17s,18q 1,17u,17w 1,17u,17x",
  "1,17u,17y 1,17u,18l 1,17u,18p 1,17u,18q 1,17v,17w 1,17v,18l 1,17v,18p 1,17v,18q 1,17w,17x",
  "1,17w,18l 1,17x,17w 1,17x,18l 1,17y,17w 1,17y,17x 1,17y,18l 1,183,17w 1,183,17x 1,183,17y",
  "1,183,18l 1,185,17x 1,185,18l 1,186,17w 1,186,17x 1,186,17y 1,186,18l 1,187,17x 1,187,18l",
  "1,188,18l 1,189,17w 1,189,18l 1,18a,17w 1,18a,18l 1,18h,17w 1,18h,17x 1,18h,17y 1,18h,18l",
  "1,18h,18p 1,18h,18q 1,18i,17x 1,18i,18l 1,18i,18p 1,18i,18q 1,18j,17r 1,18j,17w 1,18j,17x",
  "1,18j,17y 1,18j,18k 1,18j,18l 1,18j,18p 1,18j,18q 1,18k,17w 1,18k,17x 1,18k,17y 1,18k,18l",
  "1,18k,18p 1,18k,18q 1,18l,17w 1,18l,17x 1,18l,17y 1,18l,18l 1,18l,18p 1,18l,18q 1,18m,17w",
  "1,18m,17x 1,18m,17y 1,18m,18l 1,18m,18p 1,18m,18q 1,18n,17w 1,18n,18l 1,18n,18p 1,18n,18q",
  "1,18q,17w 1,18q,17x 1,18q,17y 1,18q,18l 1,18q,18p 1,18q,18q 1,180,19s 1,181,19s 1,18p,19s",
  "1,w,18s,18x 1,w,18t,18x 1,w,18u,18x 1,w,18v,18x 1,w,18w,18x 1,w,18x,19s 1,17q,181 1,17q,182",
  "1,17q,18l 1,17q,18m 1,17q,18p 1,17q,18q 1,17s,181 1,17s,182 1,17s,18l 1,17s,18m 1,17s,18p",
  "1,17s,18q 1,17u,181 1,17u,182 1,17u,18l 1,17u,18m 1,17u,18p 1,17u,18q 1,17v,181 1,17v,182",
  "1,17v,18l 1,17v,18m 1,17v,18p 1,17v,18q 1,18h,18p 1,18h,18q 1,18i,18p 1,18i,18q 1,18j,17r",
  "1,18j,18k 1,18j,18l 1,18j,18p 1,18j,18q 1,18k,18l 1,18k,18p 1,18k,18q 1,18l,17r 1,18l,18l",
  "1,18m,181 1,18m,182 1,18m,18l 1,18m,18m 1,18m,18p 1,18m,18q 1,18p,19s 1,18q,181 1,18q,182",
  "1,18q,18l 1,18q,18m 1,18q,18p 1,18q,18q 1,17q,17w 1,17q,17x 1,17q,17y 1,17q,18l 1,17q,18n",
  "1,17s,17w 1,17s,17x 1,17s,17y 1,17s,18l 1,17s,18n 1,17u,17w 1,17u,17x 1,17u,17y 1,17u,18l",
  "1,17u,18n 1,17v,18l 1,17w,17x 1,17w,18l 1,17x,17w 1,17x,18l 1,17y,17w 1,17y,18l 1,183,17w",
  "1,183,17x 1,183,17y 1,183,18l 1,185,17x 1,185,17y 1,185,18l 1,186,17w 1,186,17x 1,186,17y",
  "1,186,18l 1,187,17x 1,188,18l 1,189,17w 1,189,18l 1,18a,17w 1,18a,18l 1,18h,17w 1,18h,17x",
  "1,18h,17y 1,18h,18l 1,18i,17x 1,18i,18l 1,18j,17w 1,18j,17x 1,18j,17y 1,18j,18k 1,18j,18l",
  "1,18k,17w 1,18k,17x 1,18k,17y 1,18k,18l 1,18k,18n 1,18l,17w 1,18l,17x 1,18l,17y 1,18l,18l",
  "1,18m,17w 1,18m,17x 1,18m,17y 1,18m,18l 1,18m,18n 1,18n,17w 1,18n,18l 1,18n,19s 1,18q,17w",
  "1,18q,17x 1,18q,17y 1,18q,18l 1,18q,18n 1,17q,18l 1,17q,18n 1,17s,18l 1,17s,18n 1,17u,18l",
  "1,17u,18n 1,17v,18l 1,17v,18n 1,183,18l 1,183,18n 1,184,18l 1,184,18n 1,18j,18k 1,18j,18l",
  "1,18k,18l 1,18m,18l 1,18m,18n 1,18q,18l 1,18q,18n 1,18g,18u,18x 1,18g,18v,18x 1,18g,18w,18x",
  "1,187,18p 1,187,18q 1,189,18p 1,189,18q 1,18a,18p 1,18a,18q 1,183,18p 1,183,18q 1,184,18p",
  "1,184,18q 1,17x,18p 1,17x,18q 1,17w,18p 1,17w,18q 1,17y,18p 1,17y,18q 1,185,18p 1,185,18q",
  "1,186,18p 1,186,18q 1,184,17w 1,184,17x 1,184,17y 1,184,18l 1,184,181 1,183,181 1,185,181",
  "1,186,181 1,187,18p 1,187,18q 1,189,18p 1,189,18q 1,18a,18p 1,18a,18q 1,183,18p 1,183,18q",
  "1,184,18p 1,184,18q 1,17x,18p 1,17x,18q 1,17w,18p 1,17w,18q 1,17y,18p 1,17y,18q 1,185,18p",
  "1,185,18q 1,186,18p 1,186,18q 1,184,17w 1,184,17x 1,184,17y 1,184,18l 1,184,181 1,183,181",
  "1,185,181 1,186,181 1,184,17w 1,184,17x 1,184,17y 1,184,18l 1,183,18n 1,184,18n 1,187,18l",
  "1,183,17w 1,183,17x 1,183,17y 1,184,17w 1,184,17x 1,184,17y 1,187,18l 1,188,18l 1,17r,18r",
  "1,17r,18r j,17u,17w,18l 1,17u,17x,17w 1,17u,17x,17w 1,17u,17x,18l 1,17u,17y,18l",
  "1,17u,18l,17w 1,17u,18l,17x 1,17u,18l,17y 1,17w,18l,17x 1,17w,18l,17x 1,17x,18l,18q",
  "1,17x,18l,18p 1,183,17x,17w 1,183,17w,17x 1,183,17w,18p 1,183,18l,17x 1,183,18l,17x",
  "1,183,18l,17w 1,183,18l,18l 1,183,18l,18l 1,185,17x,17x 1,185,17x,17x 1,185,18l,18l",
  "1,184,17x,18l 1,184,17x,18l 1,184,17w,18q 1,184,18l,17y 1,184,18l,17y 1,184,18l,18l",
  "1,184,18l,18l 1,186,17x,18p 1,186,17y,18l 1,186,17y,18l 1,187,18l,17x 1,187,18l,17x",
  "1,187,18l,18l 1,187,18l,18q 1,189,17w,18l 1,189,18l,18l 1,189,18l,18l 1,189,18l,18p",
  "1,18a,18l,18l 1,18a,18l,18q 1,18a,18l,18p 1,18h,17y,18l 1,18h,17y,18l 1,18i,18l,17x",
  "1,18i,18l,18l 1,18k,17x,18l 1,18k,17x,18q 1,18k,17x,18p 1,18k,17w,17w 1,18k,17w,17w",
  "1,18k,17y,18l 1,18k,17y,18l 1,18k,18l,17x 1,18k,18l,17x 1,18l,17x,17w 1,18l,17x,18l",
  "1,18l,17x,18q 1,18l,17w,17x 1,18l,17w,18l 1,18l,17y,17w 1,18l,17y,18l 3,18l,17w,17y",
  "1,18n,18l,17w 1,18n,18l,18l 1,18m,17x,18l 1,18m,17x,18p 1,18m,17w,18l 1,18m,17w,18l",
  "1,18m,17w,18p 1,18m,18l,18q 1,18m,18l,18p 1,18q,18l,18l 1,18q,18l,18l 1,17s,17y,18q",
  "1,17u,17w,18q 1,17u,17w,18p 1,17u,17y,18q 1,17u,17y,18p 1,17u,18l,18q 1,17u,18l,18p",
  "1,17w,18l,18q 1,17w,17x,18p 1,17w,18l,18p 1,183,17y,18p 1,185,17x,18q 1,184,17x,18q",
  "1,186,17x,18q 1,18k,17w,18q 1,18k,18l,18q 1,18q,17x,18q 1,18q,17w,18q 1,18q,18l,18q",
  "1,18l,18l,18q 1,18i,18l,18q 1,18m,17x,18q 1,18i,18l,17x 1,18k,17x,18l 1,189,18l,18q",
  "1,18j,18l,18q 1,18m,17w,17x 1,18l,17y,18q 1,18k,17w,18l 1,18j,18l,18l 1,18k,17w,18l",
  "1,18m,17w,17x 1,17w,17x,18q 1,17x,17w,18q 1,18l,17w,18q 1,18h,18l,18q 1,17s,17x,18q",
  "1,18j,18l,18l 1,189,17w,18l 1,185,18l,18l 1,183,17y,18q 1,18m,17w,18q 15,185,18k,1ci",
  "1,18i,18k,1ci 1,17r,18k,18k,18n 1,17r,18j,17s,181 1,18l,17x,18l,17z 1,185,18k,189,18l",
  "1,181,183,18o,18k 1,189,18k,18q,18n 1,18o,183,18k,18l 1,185,18k,18p",
  "1,185,18k,18p,w,17r,18k,18k,18n,w,189,18k,18q,18n,w,18o,183,18k,18l",
  "1,17w,18k,w,17w,18k,17r,18k,18n 1,181,1cc,17r,18k 25,w,lh 1,w,lh 1,w,lh 1,w,lh 10,w,18r",
  "1,18g,18r 1,w,18s 2,w,18t 2,w,18u 1,18g,18u 1,w,18v 1,18g,18v 1,w,18w 1,18g,18w 1,w,18x",
  "1,18g,18x 1,w,18y 1,18g,18y 3a,18k,17m 1,18k,17m 1,18k,17n 1,18k,17n 1,18k,17p 1,18k,17p",
  "1,18k,17r 1,18k,17r 6f,w,lg 15dn,2jx3,2jxh 1,2jx4,2jxh 1,2jx4,2jxh,2jxq 1,2jx4,2jxh,2jxr",
  "1,2jx4,2jxh,2jxs 1,2jx4,2jxh,2jxt 1,2jx4,2jxh,2jxu 2f,2jzt,2jxh 1,2jzu,2jxh 1,2jzt,2jxh,2jxq",
  "1,2jzu,2jxh,2jxq 1,2jzt,2jxh,2jxr 1,2jzu,2jxh,2jxr 669,1c,18 1,1d,18 1,1e,18 1,1f,18 1,1g,18",
  "1,1h,18 1,1i,18 1,1j,18 1,1k,18 1,1l,18 6,14,2p,15 1,14,2q,15 1,14,2r,15 1,14,2s,15",
  "1,14,2t,15 1,14,2u,15 1,14,2v,15 1,14,2w,15 1,14,2x,15 1,14,2y,15 1,14,2z,15 1,14,30,15",
  "1,14,31,15 1,14,32,15 1,14,33,15 1,14,34,15 1,14,35,15 1,14,36,15 1,14,37,15 1,14,38,15",
  "1,14,39,15 1,14,3a,15 1,14,3b,15 1,14,3c,15 1,14,3d,15 1,14,3e,15 1,9hw,37,9hx 3,2r,2s",
  "1,3b,3e s,2w,3a 1,31,3a 1,37,2s 1,37,37 1,34,34,3a 1,3b,2r r,31,2r 1,31,2s 1,31,36 10,2s,2y",
  "34,9kr,9jf 1,9mb,9mb 1r,9hw,kdo,9hx 1,9hw,fex,9hx 1,9hw,fik,9hx 1,9hw,i2x,9hx 1,9hw,m9l,9hx",
  "1,9hw,jf7,9hx 1,9hw,nh3,9hx 1,9hw,gd9,9hx 1,9hw,k0n,9hx"]

/-- Characters that are left out. -/
def ignoredRows : List String := [
  "4t,0 iq,0 2s0,1 191,1 2f,4 1kw,0 2d,4 a,5 3cq,0 14f0,f 73,0 4h,0 11c0,3 443,7 h47h,6n"]

/-- Characters that no domain name holds.  Whether they include a character that
    is mapped does not matter. -/
def refusedRows : List String := [
  "3k,v l4,1 8,d y,0 b2,14 2j,1 5,0 1k,7 z,3 a,g 13,0 5d,0 1d,1 1p,1 2v,d 21,1 1f,1 h,0 t,1 3,0",
  "c,4 11,6 2a,0 4i,0 9,1 4,1 o,0 8,0 2,2 7,1 b,1 4,1 6,7 9,6 c,1 r,1 5,0 7,3 6,1 o,0 8,0 3,0",
  "3,0 3,1 3,0 6,3 6,1 5,2 4,6 b,8 q,9 d,0 a,0 4,0 n,0 8,0 3,0 6,1 c,0 4,0 4,1 3,e j,1 e,6 e,0",
  "4,0 9,1 4,1 o,0 8,0 3,0 6,1 b,1 4,1 5,6 a,6 c,1 k,9 c,0 7,2 6,0 5,2 5,0 2,0 3,2 5,2 6,2 f,3",
  "9,2 6,0 5,1 3,5 7,d z,4 i,0 4,0 o,0 h,1 b,0 4,0 5,6 9,0 4,0 3,1 6,1 c,6 t,0 4,0 o,0 b,0 6,1",
  "b,0 4,0 5,6 9,4 8,0 5,1 c,0 4,b p,0 4,0 1g,0 4,0 7,3 k,1 s,0 4,0 j,2 r,0 a,0 2,1 9,2 4,3 a,0",
  "2,0 9,5 g,1 5,b 1y,3 x,10 13,0 2,0 6,0 p,0 2,0 o,1 7,0 2,0 8,0 b,1 6,v 2w,0 11,3 17,0 11,0",
  "g,0 e,10 6j,9 ar,0 5,1 9,0 2,0 5,1 17,0 5,1 z,0 5,1 9,0 2,0 5,1 h,0 1m,0 5,1 1x,1 y,2 t,5",
  "2k,9 i2,0 t,2 2k,6 t,8 x,8 t,b p,0 4,0 3,b 2y,1 c,5 g,5 w,5 2n,6 1e,4 23,9 15,0 d,3 g,3 5,2",
  "19,1 7,a 1j,3 u,5 h,2 1t,1 1v,0 u,1 d,5 g,5 k,1 1c,1 e,j 2p,0 4n,7 1w,2 i,2 1t,1d 1p,7 1f,4",
  "ez,9 1c,9 i,6 12,1 1j,0 g,0 f,1 8,0 k,5 f,0 f,1 m,2 4,6 1p,1m 2l,d 1b,e 4b,3 im,l x,28 1ex,1",
  "ao,4 1e,0 2,4 6,1 1m,6 9,d 12,8 g,0 8,0 8,0 8,0 8,0 8,0 8,0 8,0 3j,x 1o,0 2i,7f 98,0 2f,1",
  "2x,4 1c,2n 52,9 1l,0 bn,m ma3,2 1m,8 9x,j 5o,7 6d,j 28,2 d,5 1q,7 26,7 k,5 3e,a 15,2 29,0",
  "c,3 11,0 1k,8 n,1 c,1 2x,n 1g,9 g,1 8,1 8,8 g,0 8,0 1p,3 3m,1 c,5 8mi,b z,3 1h,6ir 6sy,4u",
  "5l,e ih,v 1u,d u,0 y,t z,ay bb,0 r,0 k,0 3,0 g,1 g,x 4d,4 8,3 1d,2 2j,0 e,2 4,1a 2l,3l 4f,2",
  "1g,e 17,3 14,8 13,4 1c,4 z,0 12,3 i,15 5k,1 c,19 2a,3 18,7 1o,a n,r 13,0 g,0 8,0 3,2 1j,b",
  "8z,8 v,9 i,n u,3d 3k,1 3,0 19,0 3,2 4,1 p,0 21,7 h,1b 1v,0 3,4 12,2 u,4 w,11 2m,3 o,1 1g,0",
  "3,4 d,0 4,0 u,1 5,3 e,6 g,6 1z,v 1z,3 g,8 1r,2 w,1 t,4 v,6 b,b j,27 49,3a 4q,6 1h,7 i,5 18,2",
  "w,7 a,5r 6n,0 17,0 4,1 4,f m,7 h,w 27,7 1e,l 1c,11 1u,j 17,8 2f,3 14,8 1z,0 6,c 12,6 h,5",
  "1n,0 j,7 1b,8 2x,0 l,a t,0 1c,1p 1x,0 2,0 5,0 g,0 c,5 1t,4 f,5 a,0 9,1 4,1 o,0 8,0 3,0 6,0",
  "b,1 4,1 5,1 3,5 7,4 c,1 9,2 8,a l,0 2,1 3,0 13,0 b,0 2,1 3,0 5,0 b,0 3,7 a,s 3d,0 6,t 2u,7",
  "i,4l 64,1 14,x 2v,a l,5 j,i 25,5 g,5 q,r 1j,1 h,3 r,54 6t,2r 53,b k,1 3,1 a,0 3,0 v,0 3,1",
  "e,8 j,1x 26,1 1c,1 d,q 2r,7 2j,c 2e,6 h,2d 2m,2f 3e,d o,5 f,0 1a,0 f,9 13,2 z,1 o,0 f,20",
  "28,0 3,0 19,2 4,0 3,0 a,7 i,5 c,0 3,0 12,0 3,0 7,6 h,5 1e,3 e,6t 7j,6 o,0 16,2 w,2c 2e,e",
  "1t,c q0,2t 5x,0 6,a 5r,217 23z,c u5,f 12,9 339,4 gc,5a0 5bn,1c5 1rz,6 12,0 b,3 2d,0 b,5 10,1",
  "8,9 28,9 k,0 8,0 m,4 o,bz dm,5h 81,v 1l,17 3b,3 1p,6 o,1r 1x,a i,8 5pb,14 21,2o 5w,6po 6pt,0",
  "8,0 3,0 84,e g,s w,1 3,d i,7 b8,1s3 1v3,4 i,2 c,6 h,1 a,317 389,2 c7,5 t,e w,e 1p,1 p,8",
  "3h,1n 8i,9 1d,1 5g,k 2j,3d 3y,b w,b 2r,8 y,us 1eb,e k,0 g,un vj,5 c,5w 64,0 i,1 9,0 3,0 6,2r",
  "2t,33 4d,2 h,1 c,3 6,8v 9r,g 23,4 6,cv e2,5x 75,3 5,5b 67,0 n,7 a,67 6f,0 5,0 3,0 g,0 5i,1",
  "i,14 39,3 e,3 6,ls np,23 3t,c1 c4,7h 8q,3 2w,b r,1 h,0 g,0 12,a 54,1j 2d,2k 2r,49 vn,2 k,2",
  "g,2 65,5 i,3 5,e r,3 1o,7 i,5 1a,7 12,1 e,3 6,d n,12 an,7 m,1 f,2 e,2 1o,0 2,3 k,1 e,3 e,6",
  "4a,0 2w,sk xr9,v 3em,1 4gg,1 5rn,e hp,3hd 7al,4 6jz,jdl1"]

/-- A span by its record: how far a single code point moves; how many follow it,
    and how far they move; or how many follow, at which distance, and how far
    they move. -/
def shiftSpan (e : Text.Entry) : Text.ShiftSpan :=
  match e.data with
  | [count, shift] => ⟨e.code, e.code + count.toNat, 1, shift⟩
  | [count, step, shift] => ⟨e.code, e.code + (count * step).toNat, step.toNat, shift⟩
  | data => ⟨e.code, e.code, 1, data.headD 0⟩

/-- The runs of characters that move. -/
def shiftSpans : List Text.ShiftSpan := (Text.entries shiftRows).map shiftSpan

/-- The characters that become several. -/
def expansions : List (Nat × List Char) :=
  (Text.entries expansionRows).map fun e => (e.code, e.data.map fun n => Char.ofNat n.toNat)

/-- The characters that are left out. -/
def ignored : List Text.CodeRange := Text.ranges ignoredRows

/-- The characters that no domain name holds. -/
def refused : List Text.CodeRange := Text.ranges refusedRows

/-- What becomes of a character outside ASCII, unless no domain name holds it. -/
def mapOutsideAscii? (c : Char) : Option (List Char) :=
  match Text.moved? shiftSpans c with
  | some moved => some [moved]
  | none =>
    match expansions.lookup c.toNat with
    | some cs => some cs
    | none =>
      if Text.isIn ignored c.toNat then some []
      else if Text.isIn refused c.toNat then none
      else some [c]

/-- What becomes of a character, unless no domain name holds it. -/
def mapChar? (c : Char) : Option (List Char) :=
  if c.toNat < 0x80 then some [c.toLower] else mapOutsideAscii? c

/-- Whether a character stays as it is. -/
def isStable (c : Char) : Bool := mapChar? c == some [c]

/-- What becomes of a text. -/
def mapChars? (cs : List Char) : Option (List Char) := (cs.mapM mapChar?).map List.flatten

end ResourceClient.Url
