import Marginalia.Text.Blank
import Marginalia.Text.Hex
import Marginalia.Text.Packed

/-!
# Pictographs by name

Markup writes a pictograph as its name between two colons.

Names stand one after the other.  Each has a mark in front of it, and is followed by a space and its
pictograph.  The marks from `:` to `@` count from none to six the words that the name has in common
with the name before it, so `:anger 💢;symbol 💢` are the names `anger` and `anger_symbol`.  A plus sign
behind a pictograph says that it comes in five skin tones too, under names of their own.  So `:ear 👂+`
stands for `ear` and for `ear_dark_skin_tone` and four others.  Two capital letters stand for a flag,
which has two names: `:cuba CU` stands for `cuba` and for `flag_for_cuba`.

Most names are packed.  They are in capital letters there, with a straight apostrophe, and the
pictograph is given by its code points in hexadecimal, with dots between them.  So what is packed of
the first two names above is `:ANGER 1F4A2;SYMBOL 1F4A2`.
-/

namespace Marginalia.Markup

/-- The names that do not begin with a letter of the alphabet or have other letters in them. -/
def listedPictographs : String :=
  ":+1 👍:-1 👎:100 💯:1234 🔢:1st_place_medal 🥇:2nd_place_medal 🥈:3rd_place_medal 🥉:8ball 🎱:__1 👎
 :curaçao CW:côte_d’ivoire CI:réunion RE:st._barthélemy BL:são_tomé_&_príncipe ST:åland_islands AX"

/-- All other names as they are packed. -/
def packedPictographs : String :=
  "UmSV$d/6Uw@[Cxz#hb4`IV]X46NK,l<+^`@V;n+b'-Za(=X40KmhUB>>4S?[[`0'_>TC(W^sB[:Dal_Dhnz<W9PvdKrT^9eD;hQ
 a#3:,oxC^MFWaK9R4zDr#%+.?t:YYZY*DW5BoMD<ez[Z7=;DpOQX&9CKadh[IICV<,[.eQT*N#=o6#Fo&+.[e;CJvaXv<`Y2Uo`
 4/XahRt0LC=3Z__&^[]KA40)vKC$G=CeF`nuxk5U)0=^4qb)CFWD1%odZI1u3pnc<+g$<]=Gf@qdI`*0YI@]dst>^QiLO@f?qcK
 r>U_-iU:.d)>A>PFBZVFA5:b/i#j2=Ie)%vAbfK.h'40H6'K#`^ST[c29Uw8ym[ryr>JO4vlMjMSuolb<Kgm)2]qCTfO:sQlJmq
 [ciq[VSqUT(R-R/*&<fq0uV+c89As4bjP^b(jHiIEz@$>#jg:K@:=?9H`gaP^'A]e0NJLa6Ou2b(.yZM:vQuLRQTMPTiGc32A4g
 0GS?=j^y*Y-g0Qy2'Z`o,*x>.,c3)lUp/z6c7R$m?c)yF2'#v#p_dB/oCy$o&m#1xRx[v%8Ru@Q**7t;6Yx99V+$p8euTVq&G9u
 -rDzwEeARda'N+&k)vs+1rUc((hCVW>=b'.Lb>[x.^%V0*l2qc&y&YnwTrfoJ0:/(xZ&G^myh?w/1sj,,%*(n9xoQ[ELdl'P:Y1
 v&P2)@N/CjZPL*+rqA,+Sl7$ppeY?N[tY4@xB(0PIxB&E#$)0u^SJR(7b@O+jO.be8QdN.&FbjQfrdIqHr.CzklQF;?t@DU[^8w
 l`gL/o69Ltf[@@(2M#@BQks73[(oMo]Z4<rZ-7:csW2DftB-_3&uxsZ3pln#JJAfFgT=&:@;KF%SirTqisWkU>Bm+J]t4r4:(@*
 #1v+QXV80svSl.&9K2q_Jasg6SjRw%Vh$sg=TklVblS'XCwCDre^Z#z<Sup9Ps(@4G#a:jlAqwSyoYl3eWi;ns<'BIIYL`I2T]3
 .rH73beEz>iT36iaZZJtH.Ltq.=P%-j73)>SZ*iKfQHd8(F'dDsk&6]NTt%xuKRPr-?Obx+;VKE6GDC1wMEeyn-dypS/[/D3]<L
 I-EZQ+O`/;'%(<WhmMd[+GTo)re5E&XJI6f9;RCZedsr-xW6PhdblW)Z8cZonyI.,#im1)_xENBhA9,iXAS7=WO^02DoZ^ij(6Y
 GSYc1#[W%:6'b,P`#J>D(%Zq#PYL(LXX=pj+ajT+Vq6)U=q/YY&%=dg>J&v]lcaM8g5-gO&gwSZPJc$W=ZB#xqA$i^FVouDQz16
 :Dsu46O0_uC3F'z=%6-&nqedPoS*kiF63&OBYZ0k,Oz/ZI9CUqh(b2]x+OI*@i0s,B`dZ9ATfek_P*F.BeNl__)^%an;QW&i*mZ
 fC888F&8M+ev2_rn?1T6v]?ZTR29wL+iPpp84%:L*`&BQ1WV5^77.wN/>e8Gm_xTu>NH3([E6To9QoQyAz*kX/S'vo1^u[YI)?h
 #RijNRwzyGbpD7Ar0(q7Dqc+N'7:X,1kZv*_v'UH0GQu<q,;%Oq`NKRu<noESD82lvHxa<]@c:2`&bg5xT>ih0l3$0.Qr5%jAU)
 8Kit(o=^<8Ld<T5fZQMW6P4m>_^/Yz(1's&AKlkbM_wM#t.(owzOE,rfb$?ecsxv6mtk6-H#:kn;(MX=%9blZBH69;t+8GWWYmP
 yvT.Ehpi>#a6s:#RV8#v,F]xb[k&Kpe/t>l='G>dyI'1J:Y,^ccZrL_c.<[I6eX0]82j?ukc9&_b@R_ipl.%Z;#]]j9P456DX+.
 )XN(eD,(?_u&cFQ4`0R^t.Bl.di_Qs)5nbib'AE:RVmiEIz[hy&E$?0oRL$'l@wTc[+X0C$;pgN+*=3(Kr4IYRjLh.jOP.X1aX0
 YT*nTZpi&5xz'P36q(H;FXOObuSiqMH+$9CLkkGS(48w+FeH;CKp]6:6+=i6'V+R5:p3o%,190U2Dypf.0/cQWITpOwh&1:Y7yK
 o)9-:kz:,,jPkD?RB^2WhS3N>v#^=++LS<FhJ39'&%_-mg9Ma5NjI[B&%u^/o3I`J3o@6qz/qqFt%ILB(Ok@Of#Ha>DfR:.4&qy
 <S5c+2z>yQ87:*pVOq=>ED@80J.u>lmjnOoy_m+G-1J0>NJt8qY*x9.gCihf]@%T#;BwDNXz<Yj*YJ0c5#N$O]Cg8DP`W'd_Ckv
 b/CEn8-3S<YP*R3m0y%$/25x7#&MkZ,EdWC14zuBx%Z0nMv6jgVXScW56ye-JGdkt3g[nN<gxq%^0Qa7p1/mREpR^xi.8.&BMJ(
 KeFulkP<N+p8JxqQ5J2+N'wqTMzgTk[X[UU/^+QV&4>7OBY04G@u9M>u(%V]j4L^siu6tQvY;8>=jCEs45Fn%]D1eof*Sv@2@WZ
 ZiRu3=biqIF>5C,6HcphKCPpM`7t`(?cj4a$J]edf5-#i?%i%6nCa8B5+d?ZyM7Fa3<AFR%zXqnY-3Mxofh4B[AF+2:Q_01<k*5
 J7wA],kWV>RglHRfCmn,CgLs/>x8Nl?W(ajCJOUTi#aCre5V2&[FB=]zWUHPe'R@4Lf%N]&NYwFWjr8s&l19nrt(,(eQ-gK5sF&
 =OcJ4.M)FopInfMpbaRVGvV)u.u$ilOm4]tc8]#Ssa/4KD4.?z*B:]=n(lWdXFIiha?@Canbu%Jo9l9#YkTMiU5[sC3?K6QY6F,
 `+C&vC:Abe=v;/n=?%C?ZJVN<PmI51H7f<<QcV(d]QUJMfRKsEVoHD.7#<wk5F1#CkovfEzMz.9kuWY)Q%-3tjrsiV?3C%E&I;P
 ]z.f%IWiT.fN5lHTFRoqCOUAr@Ojr:366b(&R$T(UK6=_Rhp)n+8VDb^woP+Qp<K4%fW_n=Dn?PLG]S:eAA-v=K:jZNXnbRWLGN
 U8M'MCjU;N$52&d.-G-Ye1<x1K=yL#=(Od'&CA>DZs+Pq);u*v&G/cNOzY.4@)BoC#)xe;p*6Z^ez&`zAQ:*/ZJuPnU(m:N0OWt
 1>y7S;&D<;W0d4C(=k_DmHUxhaOKGy&p:@SQ[@LKsJDjq&Is./3_NC/@u.fL9&6CdxcO0NapoCGM@dSm1XDC^2rftlG(x_K-qKs
 pbIH>0%*SmO]^)v1SmF?_[zTV1`;$:mLYI.M#l%$Es'(a'J36`$0d-U?kTn<`5-7Ne*_/&7TBzk)c8tEi$?4T_ftrdo6ih9;Ujm
 `*CV0[$'rh1aH)&>X)i:ubhtX,']R#M#='m.x,b8w1:5QCVStQ-N0>u-PDo_+k8'zV15I;:lqU+cGU?HJ$<`=81VBz/#gfFArLe
 $ADBRGgp^6HNS*x?-Q&M.Q;yGB`eYa&x&[NIA=BK.k$s`#PwjungWP+h*.c6?-Mx#6K7<H13]x0,^Y9(u8qz1ttr;*2zL4BFa_#
 DWdmQ(18[.jZHmMTT/G(YgeS1AR$ZJG/80#CTC<(:jejvKv6gaJ=Q2@KdiDPl#EN5IxOH-&HpEAsiRse2h4e]_A-]=cE.;UsM?Y
 1_UQK8Tzsn@wILf@hIdV6]ZS#zaId;IdI[lEq3@eFGN[J2xMe*%IdQ(9R9BD7<E88xb4/2N77u>ADx/k:3W#laL&q>MQSudF/B.
 u_wd9H-z%2IFGp6L^Y%3AMJHr^cz%)1,S?JSc(w/(tOgqHvA[b_nh4@4HyA`_#CIH*ShF4,:YnBIo7-q>x^bX%Q9HL.f<csd,y6
 [#&sU;i9Z&4[&jKl?F/PX(YH+dSl7E4$A+oT2)t;CxVWR<LmTmsJ5qQE6e$4,$iPr/n86f_Ergb81Dx]v#>Q76vmR'Wim[1kQ50
 i/B&$,4LHryaHkeDM%+?dd5N$+2jDiQaE9p;;n%/b]/SvMlM[,BMDbd*g`lkH$_r<7&Xvl++7/d2s@qH5zwH,dDxKtm;]t;tT;i
 180<o]GhN.<(vvyzMf,nwKa1%P%x2>$Z:uaiA6k46[r%:WVT>fd@tFA/J_9Ct?l:?R*0(H@YS1:^>y9gD@t;;y?udq%X^Al7>'V
 AzV=X/yZI^d6X%E[*=5N-h7X2;,jFyA(x9#HHBcnvXldo5HYWu/,:@wU+b]n)]c27WhWZ/&,BDFK9KgPoL9%O0wqtpjMKVL[au/
 *`+JZanr[[-wbO^4Wf+7P>:mGK98vxDPUA:0XR;1/_53B]uCUQ@,B`yFJD/dr7P(4t)TqJ3j_63w%`gxKvDp+eR<,A'#Fj;ZF$U
 l&2)rGO@.)DRHPqx:Z3n2<+i&ZMpa@zm8xidq=lzjW:`NzE&_O>'9PwM;<J2zJRp4+v[9QAbu[r:yf3@[LjB1,BYg.s`5]p*x]`
 E+v=q%r9;iM_DxU-2L]E%-w#=e[O,BAH.oO?gHV[#NoK&cMAB4OU=TnC9te5L;2RodpMGV*T2*_)&FJ1)U3rA[4am?@K#0Pr;C)
 QyTh$ezOv:t`(2u88u'wM$O?9jK?lS3E;<MTox_i0CaQmG%XxxbU[jWs:rOC)zvjw7G/aO`oR73=1<smv<%A)bAq4dnYM&BZ?q1
 (XBq$(VJZBt$sN/V)h.-CHGm4c`O%M%PcF[x^K_uDnM@8ON-RH@9B.4%;]0m?QLZyyN^thy#F2bJ/]s.1;yG%kcDX)Vg'&M?3o=
 @42LOfl>g5@ezwTtPo$:h19(%Xrdd3fERporB-v7;nYiei=&SsdxWavt:(IJU'T_S5E'i&y9@t0k#*1u6$wnu$tyZ&f1#'QSJgn
 H`vjCOG'<mc0P[A`6(.H(b#N.8ilgjlDX&ME@;RW%Yi+ut:/;kb$:]3Bp55G?.U-]@J6;Y=yFlL=SAMb)i<yeX^<NJr-&(J>0ZL
 Q.Iswc0)$H:gR+Id%jrD@x_T>Ojr=rtO7$:ux'ziS)S0CMFk7bH,LNR7p3mb&Ed:s=A?:F^*0yEkd5>ABC]Kf+l15#1hs+Rsh]F
 79?s4'YQtnt%MEN*;b]%-[(Jc523VX9tyF7=;ozyte;rNI_=*mnZOHpoGNYlAU'he3J7>`?1`52yzhQ8#+0NTBlPJhfxh8ix$][
 L-;+m=V'<A#1cl>4S#w->K+^7D[x0@/Rd6a1sJKO@Z5PKNHA`NX)$UB=z>(t`TU8DftreylS&6oBG0xx*za9EEpd3DVEir18y-%
 U9o8[fb,Wl#wA?38GknL46bk5Z4px79=GMiPRD>8qUq69-kTXHCK%,E:xt',`Cq8s?B?WGq_n$baO:=amF:i'D$T];UscTa%`uM
 q9<Hw>p^IDbS@Qr-e-^+@k1P'6Al$[JB/mf0<fGSp(F$,aHp(,(SfcxH2q++UkWeb+:_8UNwK-=2>NSNy'mHx/<QNQ*e6PgwMF5
 Fu]yYFSAc;3%[^)qfR9^?<#xN,BTc,VPLLL*@iZcT6(zMt]uE2E/fJP@Wwy;2lUhtOE<V)M&9h<DW77nD91AFAZ?(bthj(p_F4r
 :#r;VFyLc462'P,aWMXG,m7,M3Hc,P,tLq7dK$aazS0y'77[lfdQ.iD^ouE0r=^Vg?j0g%:5Y($a*40M@EB3(SkXQ*4YH`-d/D.
 s4:fgzCap&MJGV58]?koYVDLx-f^FqQEL3@6KU_n*PJd#/L?bDC/Ww_2U%4HJl&XLXkZ+jm>zbD,@TMra>?`d6T+ANnZ_1i;1$G
 hti6Q/E>P$u%eHuRnc'.?f,&WQh-w4b39'i-MT2%xZmn=<h0IbsUha)&4,Ze-*_71V`nG&Ya.4WkUEBFY.^v^^JD7CvJcTQ^YlD
 T^HpAeFa,z;-n*QxlhN@Vv<Xz@v?LN&H:wuWD]3x^adn=1?7nvBkK1<,.w_eu[;LotQ%S]3_C.V1MgW)=72d&4CK=O5U4=5=p@_
 m#[[/hmSFjZCPPMBB1xVw(W&gIxGW((^VLl-xU%v<B),Yt9dJj+)bLXf]ycUNbgoR8ez?oYo`Y-$vOHvsLu7YM3YyjG(GK1Md:v
 29ube.ybdZ`H;V@R8lZE?4+@->8OpeJLJ,,pQ7h/9u`es>[Du]%Pb:RdX7Y9M&uSn%r-<b>&ejoCvXa^AxmCY3^9wAmZw-p2&+j
 bWoGs1Ljyi`nEurv/$&Q^%_JSn8Rk0iYc&XIt?b:C6(J&F&FB)6<tn`hROY5Y2>9/_3#jYPpabF1'N+gQ5HT.T'w<?5EXlaDPhR
 Mk*WwiU([Xu8^(`+#Xl=me&ouex1K>$F5St7)I14Ie)rJZ^^?C'pQJs^m.[mFWd0&iP2.v;<SP_Xd&*DJ/%DGbt>]9I@@XWS:B$
 %5qc%'j(,3Il<v:cr_%2L9?-_bH8CnUkiM2[%=dhk5BxaKi(EYfgx4QI>ZCf_yRruGBF]Ti3iqY]es$1XMAxxo3<xxP+Ep7tIpv
 /Zd/>VY+yZQbTPL4[.$JZc9pkI1)7-9dUbqgp@J^wl*H/v+XWSM'm_;;,l?v@NuuFTu1(ae:SBjiP`P3hxx#.ldoNIX3n2Ccyb1
 :x`1kbAvZ1@QEJl*c^MXEm@(^64p:r%wsq1LgU*5I6TvoNp18Vjx$&Flu`unbfAz6>w@jc2qKegc>Ld]SSRmIBlF^K?s1P]_o^j
 z36bjEc-=-CI,Qwi^)+;&(n_>rIN4A7i';-#K;GS[GLpzuYDD(dzMOZM7ecCi#bz%HDE7N+.DK$]IK-@zzERV4GjCAN>ro'bDlP
 qeYuTQTi@'kA.1q]NivNVQW_?2+;F87^Bw,R&0Y)Gw<<b@8S&&]?JK6Fe7^i<4)Jx@S5SEsvq_2BqFDP>__B4NzNsFfV+#nuG_A
 L+87Nf+w51d*I1*`$^/sKV/cnjo$+1z]oKdhB9F@*Y+*MB^C5t=Q$?6B@&Hq4uEx_?.wT[NpW.u]R2nBF90Eyu55sA*#66,LWKs
 OIFen.N<.y`F`8C=]%1i2_v7KlY`lR<i;fi5:%>i#&yIAFe(Mq)M.%CYH;gb.IIy&,)KAtl&M?pkSvGVY3E(DBp+l-vJ@A1u.45
 <_mPQV@npZG4[fzPS).C^#u*&itq(BK:C1It37tb9w0XwZ$eD5l_cu%.lC&^AaXZbr'%yECJNq@q>hpNQr2Lqc>6,`io/MQQBOl
 -Pg;0kY_pbXSxt-F]2PJ_kAz9.@+hUC?#21Hnl+Uw3@m/TXIe1=i^#$Lk-pRX6P)gGi'C_v'i=GLgo&vUif&=cg40M**SSC%a;x
 UJ4`mN4T]Ido5_$T>@NS/IKTI2Bw9sDq&@h:(/eN5j8nbe0m)V78nxha7%/n_RrlszYiLVu>Xrr1'j-eXK-)Rc-p&uWh%aFa1W2
 &,%*oh2/osofz9*:fX(e7I&$Dw_:H*vZzaNZ]=aV4wO8_1h*W+)c4sQDJZZlFS<Uo'9-1Fo;MQ4L+LtC;TT:@R+k:xNN%9+BvW4
 sWw/#eon'U>pj:,gjh:Ms>zgIOX[FZ:1P+<ytgLDyxx1a8b(`OD%T)uC]+Mq$P9[^,Vy`P9oj]uZ^_;u$1wz@JJZ>3xKBFal%-p
 _&nh%edJ0sZ0sNz/FA;*T.[5r3^*W:&&*yqX;DWCN@I6(JtR'lya=YK$:SB08I2a9yxP)kkGfC_Y-0%$xg^3=OvZHX^LXYq?xs>
 WS[-Pe&&RGUKJ_-.^YkE:gfL=eJv=+OWw./AdN[oHgU6trDb;1v?AD:3?CoqZ<iL2ayr7:lV,Bz*:/bpDKjx*CxS-<5X@I:nl$5
 $ehksKtgb?AkT:3C.`P9-/RNDa@pnf9`&z*U]sD#TB%]=hmYTeTmW(t(kDKj'u[K:9%Q_#yb2eNgJG?]t1fm^i%%H<g%@AJ]+6a
 e8LG)]6uw*I/PYd136aJ^5cP(E3#X)YL[eo2S/<zr20l``yrdvUl`d*5^@S.JB4=a^xV%7T#z3mavnq<`uo8v]0Y=F(ZKwq8(_^
 EAqOodlF1_S2([ZFNr@).wrecLbQ$&U#'MVl6*5=mt>&^m8;b9)C=y[@zK$#(JF4;KJuZGLio6V-CFNc1m*QY'$&_i4nRpr1<Rg
 gN-kk*hrudVKOr>IkZFzg3/-zT6eX@Y*J*x(+bOD3BxkL`7=tsa3P)0C;F#dvoUd_/]O=1vFj,J=EE>-]]BQ&pgX/WRj,fL1M%)
 DQG7sHLTW-%%9It('^vbz(fnMNbV'7[orA@*+8#<1XWONAt&ue`[AnHW#E8#>yhX%REkrTHBkDCL5E`QiBjMD4jp(AJPtRZPpkj
 r.=Rr*8rPG$fvwnqCt3_0ufvLk?>YV1X0SPs.-Y$WO6vnwJREOl%gZk0*s*TyBj_ZPrBJ6>T/:NhfXsa/)0LT,QN7$)tn^DD`^M
 yX@o[%8;?,MX6[9FFRU8Z`jP9ntR`aH0+?OqunL%/XSL-y&r*#V=,TQkb[^1wc<c93g&]Z$hoIbRF'9gzrn8D&//M$gA&>UkOOS
 >A;wyK-mUGB%z6(.TFLqIy,]-yeIotOuSMC@.Qly#O6AG<Zp^k4o)<9WNWai,c#Yr22T;3&%$xIy[d'y@H@bEB?E28@nKM(oIO>
 T`_tvg)HSpAz9,RrW>=4+PjN,,VCYzLC2SCP;OOtO9A0bvSxiOOKb*Jiha-i^IlgW#%R,]S^dqv<4K+&PS4Q%&DsYQztLrTDc?8
 imreB&/soNd>MEfq?c)ppW(hhVQDy9Sx,S%xNDu0aB_m=2[*<Y`r_E`4BS*&i6M$$MKU+:7jDG^tZAcr4.S-di2PI3v%^'9&Z5N
 Cfl_bD6JE;x_BM$%Dnw0)dBU7%nFtU4Kidg<%[]Dq%+.MZ_V[U?jkmvF]SlBhnX+^K#B[U@+G+5^gMPt@6bWp+pT4s0kqmKk2Ma
 dXK@&sG5k*)p0mzKIx`Nx7wui*YcB[v)*i(+sTF9>LyknNG$K[6%wmV);tZL=.VG^(d@HQ(On>][eg8.,h'HMv6O$2)vIr6]gB)
 k<&25XC$X46ehY)(ct9UlYl?<[&iS,8qyeG_GxLgf_hkD6zg'h/u*VrdMN3;,1kCLimmETbU0`h):*V@uXT)wDhh:heHl$Ps6Sq
 rL80JP*kDGo1x2NSgpl_772CK_.eu0I8dv1%[@h(*jP^gIY%WVIlH`qjU'uyJ>d?l=5WG9i/_&=A/i*fR^sdZsy6En6ng4eHKOu
 ZUPi.7w.&N[.,oY#xC):$RL-rWBpDFF(Ry`ANJMcZ,l_-=Ma8kw7/Z20OVvD$tbTyMrsiOs$+.B]7SGT$fu9Nv^FLm8rzSgV=.r
 5p373acJ0''#g5<REi9':q6U9EYu@Q6YLY0&W?XsONYM;4]ru34i<mcslV]1.KZW'C0*[5;nXzRAD/Kj_n;o(:QJ7RQw;mO.cb8
 .qj;&e$K$D7m9,@sTDQ4fy]JIlH(pM6N=eASugOmitd`_[G5%8VX[0yq%F,57:2j3hgOXBJ_>W9X1A*BG.m>F:>n+@&5AB[&JA+
 Jwo2o-KEObAe4kUE>h0]l7f%%.1R%DM#]YuP?xwk`7^MkrxpPogQFq[K+XtuP`,C)B?A[CDWU-@VbJ-*.[PyYk)x*W@b@T[l=QB
 jx'#q#MhA$J<L.W=6N$'r0]5gAA<6PMV9X#$G;kcR/6Xx&0[Ipje$Yn+rc`spR;T&T,jU:9XYXor(16NR=ex<sGV9_w$LD7%=Eq
 #$H5i2nBC:ZtMr.(:P3gj[P:dBvNT3,eD<%hHB#4LA/-n(,T3ES),E`hqCK*(,hQU8PVG99K.rT8X'u<(_<myJ^lQ(Tm_6h]6kl
 r,$f#'hET6q:U*ixKI?JWa9kxi*m-0sOi`fk=*YIp3@8ey8u+FO(qOMOP4lF]R5.pZ9s6PRgHk'FrqQl<lAQdh%N;r_8wb&YYD(
 U[1gPp5s(<ShGz6pTSi@v6IP0u+S[x45S`W0Z089(8_NdWc&Y80skHds.XO0)BuB([+yU8<:%BB?'6,v>u]ue#PMX0Rf&]7M+D<
 w(Ds*^*o^Y4$bu<9mH--KYEsbbO-&Q;6YyL`c]tA=>.106O%jfpsN+NGE9r=rDz&c1QxW2KG?R:ZPQVQ02DRZoL-*t5CR,sg1Uv
 3G](1N`Be>47Xp:Zk$IWrX_f=&MnK%z$'<//?i)G(v_G@:aOj+Prwi@H<ab0@*eh^SA]/Z9[F,])mGDse,F).W)u]cUr@lM^nyr
 AyX<@n[Q[ZBM@DUd[pysS?eut<9r=K;R`B`9V?roUC5bwt_c3tX32t2d-XI@`QI_*?TVk.YIVjj8;>ZjvzL0gLimrLBz*_BuvwG
 X:D(;D(WzQ3Ngl19L[6]6p/QR69OXS_dM)]w6[I8h@mW$2q-xI'w,cz1F&?P(1Zm87*J_Y9oC-gQrqKF(ZxV^]xr/0WQA(+uCC3
 5AP_RD#'_v1rspOn@Ura#2Zg2]Zf9.DrxCwLwElVYN*kt/wqr)`lRs,Qom+sdLAmbUEs^?)JCc$`.qdZTxZn[8;Wpu09*XBH.Sh
 bcG?jqL<y8&P(w,&YP3kir.=_2U'VzDS8<N]G+905TVJJE'2CAYZw`BC<=>lQ,jQacqFsuJdg.SfT+g(C)u2)va#J4It^%+zcG)
 WgxD9?L@]0?t#9A)dOc9Q;co,Z1[>`R4LmdvX<=z.%#T+Oiwiw>%Qt#Ge`#&=$JA+V6V^)7HphaWALz])(lfUII^xWaSdgR5tOn
 o:/#O[6Qv=R1taQ5U>,o+MQf>;+_h.5nM+%h6P.c6ggVSh/JZ5[G-EXDgv)9.9jT;)2QN+z3_pI1[d:8D/.m38dg)Cq.B`U<ek/
 wCZYT,Gq-OZ71H?xxn'*Wq4q?/TS;H=bA^SYn<=POz[dC[+q=,y1vgDYC'9[:u<h@av(1t)pL.cD@H_dE?yUW$B]Z44;1I).6n.
 $AHB-Iw`=J8IT?EfNtVdrc2#=3m4g[s;,_%R>-U?@a..l;@p8AdEYJ-dc&=Y3?yVx5>:,utrmB-3eim9;<h:#&EWphdHl$:zHQA
 4Eg^L$S-`q%WNZt-gkN*iCGVV[-O<2GHY(5bQxb(y4r0?kWY6C22U0BhYdUHD4.Owf6@2i'T4xK$J^=q=?A4uq5.$yF_tw-#6z4
 O/#c>QhyHVKXw)J1,MQH0P0S])FN?o;-=z,]rYQd0Lk9KKT`mbx>9b6eO<BETgi.=YLzpI=-oMzRb=l*X_(mv%k.Bf$]]GFPgcv
 P5Tj;bAYFHgZ.LBVj-i1Hkh-J&2hPVi_+0(bwMdyN3)d2s,hNT2uSoi1XQ96mq$hmw`F6oq#xJ?B-g-BNjjmRnreDPz<2HI,D;e
 5;1;4Xxb9-lnc1M>csyfWyxgKM-F%^u&&?6uC@gxP3b]f++k4$VboJYGWCO2[EY;OsIVt;??W/Ru:N;gs`/-yF524i:ix#_yHN%
 h*ai%=7/OAMlUE0hQm&?dk:=-<iWSxurQkgYwGEE*BJ?_7T@Q6D;<.:lgJG3#I?p3t@Lu?$bk[rBjuTH_8g.=r0i23mHPA<X9h6
 (d_YXkKVDb']F0m1R0.z/AUkUmx=:+M9vR&:z[ELpqTFr3Sa<A9_[Ryhn2jUjee+E@eg7-.q[`4H.<:N&9w3];0J+ti*qGbp[Wh
 'Av(s-+%I8=pYQIH%TU]qH:fH&Q`)e=<0=2kF52#jwg$5?&^ra5pTQ.EoZibd^(?'5-?uk*a16]_Q?6&caD&pGf.3GbYF_1n0Vd
 JW]Z'v9QJ;=t]#A']=f5MLXS`b5,V:X6`gZZrib5_^U#q9-gnAh7;''%h&gF'$(]y_f,p>6rIrF0,V+:E%ECe%fBwQPe%]=nr=T
 b/sY+5FaxmfeyGqp=z6oxSh*[E_D4q>Ynp^q`PYjPp'sC*L.=K/rL$cB8;lE=y0m*vf>WZFfAWqp8-&f;QRrQG=X#4D&P&Lu:]2
 [.78DuWqUnB^oHOk1azi,,y;i+(A&$Or7%Mvw?ZMw717#SUcw)_]Tp?-CRb<)Ag%H8*#vI3g))xYU8$+dp,[EDa>.oZb_&4wH?m
 Xa3kioh0^`h>cXE<-Pv][cIco@1JiPdX6Od&?-84V3;aU+oFzFUNCr@tbKq3FKRYf#^sRb>[vj0;AvyOibjw%7&,AHcV]B-Q(]7
 #sY(P1h,XZkp.?6JFSvpK*e=w0G13F_9;Teiq:xpllQM(fw$y?8xZF9S*Ae7X$bwGdXyyTASdR9V_p]hROgfNz;pVQVIQkLj:6o
 LrD+D4AFxY=L^e<MM?_1$U3-]G:hKC[GH5*cUdL[Nhh0K/8F#v=OPlTXI:V5@0mVx;&]Uu@xvmq(djH8aYF*_Zb2XUYH4o?^f@(
 UuNBWXaL(PH9wt@_n@^OAVej4EGsh6S3LkFMVcHVMi-[#xodo@e03p?euNh_kIu6r^KG:#*?w8o?3@`F#0DP[-LCMk9'fCb]J&Z
 9'$,Z8sOS.<)g;ehBF26aw#wF+J9nr#%1v-IO4G-/XCqEN,/jgU59Ty^'RQe:SFF<'U3UQkr$:uF=kH1euSc7]e?aZIg_n;5CR7
 *G&zKbDkc>*B5RWTj0c3?)eHQ5Qs[zrmnVzi<.)R)EDmM*@eU&-wird*Pn3M511)Fa^w/3.a7F2e5h]z%UYwr-wg8ZG:^=1cKEF
 ^_pi?5_V3zWL3e912Min]SGZFSY-_2)kAc,4z,+vax.*(=wrlKaW6X^]W6imS?.(#a/kDS3*:?@g2V/*ea:;DHHs5SfqT0_l#6E
 #c4qCkiV4`sDpU1)VS7^Z7Z]Ox[>T`Q=Mi'vRL-)'j8yjRmn6:U5ZXYt%&@Oln_L)4?fv*^LkbHUwZPuAAY0Tcl=dwu5Dlsetfy
 &7@IzkxN[k5d%PsZTjkMtKZ7QN*2v]AA'UmHo-Ym1Gmz=R)Np^D+5j:56.:F*p(pz;j13Da8D%g+*neo#UK=]M6ssIUU1(hS(:I
 BTpveAVY(EI8osAhCu%ak4F3(,FZ.)qb'-BYx)1micqIIobKkA-dYnkgVRYOE]BOv$gg0S7VNPe+F7e-&qmrI[kJpXii;j+P&5o
 @pzIs+wv07ZDs;44mz(gORXvw<A-_.oi&KhTk.5Ol7-c>e/v6gWo$vPGXu7^PI1bnl-ciDkR#p2OzmA6zeIIVie/hdRX-4^)0o%
 VIg:<aZ&.4AhlZ).[Nrd23T6*RjwX9Gm(#+<5+cKYv)p%9(`4?c3B,kKHjmfs.x%)EIX*oD>CNQCdnOC?g3Bnl1f96d_a:mU%:2
 S8Q0a5UsW[m`V=2HETEfz,r_]1gSQDYNBF;gu<Oo8,EF+Fy8]<,99x0t,=JPhq(MX8CLV6t,)CdC(;Q>>`#M1dGky)UANW_gmi$
 D+f1FU9V-l:@#E&D1yE%mQiJ-pp&C=B+OU+a9W/E-w1vIlw>:*?o@lc/L:+wr-Kn,4Y66A1]g.Uf&9@eJLP4EiG;jl-wvF?icw:
 ws-f]2uF19iia]FCSg[8lg[Lu81@eH$qFu(&jcbp9(?YO=Qh,=OymRkin^>BSRkM8ta3']CdNO:#nScf#bj:KF0;=MY;B<ONWt1
 5rR6+^opUw^e;,e67K0`Ip1DR9#9;[#6%)oY6_-JJG7)ZNT+XPV6CU@eTao(e8o:o)NRMh]mH^+Hsbx%wr2FjOix6%#8K+_blmz
 N$Rga?0)DL,]hiSTOA7.Y%,fJVDGAPZ:(2jRM(jN-`Pt*Vi>[G'ZK_jYg?7xWxKuM]3+>?b8g'G9#'$I/LMAo4KD:wL)1`$3G#d
 z:%fsjO.=X_)<(BXeWKR'(J#:h;UuQ?y89qqi8:khwVOK9]I8Jm[Z4uaTAQh//eJbB@,+z8xFNMJ<v$:%0(SJrH]4nsKGQ2)oKj
 IDEa)W%(JHb*RwL57T8>Ozmu[;(QrIbY@-fsHYa`QTaFHX9zF<c.[y9F0>IH]PM<dTcPFJeG9i7VeWkjzPI1y_4s.9]7M0?e/[*
 9eChg0675*qw?8;=<kS[?p>B$2w,+zD<3o%OOCd6VG>PrJj`GX7:V+,CL6w`,b)Cl=A/.#gES:]-fbsKU>6)(uNuO:]bJ9LbYm@
 +].29w@cvnGsOa-'v>B2m`CAN_gD%Hi[q=MRULW'JF,4ay`#pcEy*r=v_<R--rX?MEV&_z][TH?w=`e56>J$B^xHMZ;`M54vWhp
 *9#kam`%XKi^F5%zU:UpV3CkA[R1Aj%mV*l$$<lp4d2d+qN?Dz-H)X$ed(MG$36G,j>X5Wp_W3O:Hz0v):=GCpQlY]rhv&y2Wq#
 ?9@6i&0TRI<)4YU`'`rZ(Qt`kgWYxYZ2(aHCYTj(-eYi'l@NHzy-A/aaS2%K5J7m4C8aUPCUBfOf;mmr&8l,+xUM/)1m?PUCL7X
 1qTJ`@@/VWu^aSY0ZI'iTEISk.[j`]Z@Z^@XEeIp[R9.'KYhrvoO1,B%yu9^Hn=Q$it@KXHsGfVfx8[4yos(];2yK--TV))+QeN
 qlxmh#7Tk%RZ(28k8XcphJ@n3C>[D[lViA-[*CN=<pWGjA<JKR*1dH@xB?:WAgm_8hL6i#?r<H'o))jc%r_D$t_ZqeqY=/5I&#b
 ura=lx&hHWhn;QLi#OS_p`sa3D$z,7aRR_lBdGCwDD:;(TU^GAFi0mI7'BRtCob.zk$W_5PJ<8`NvRAJyaKxN,S*)14K0<KdH8V
 qUkk>P#PmYCuB7^P.wv^*W4pm^9Qx'IC#Je$5>D?/<=.fKfj,EU`F;#jA'4zxb&lrWtNX:,;[R-)2*Pw=lqe<(^NWovc[A/Fz]<
 8IfSR@0^/vSYqc:*pEk`c.qiJrdnok&nBJFDnb_j,*1`B:Oi009;(R(wWLz$y^b.Uzs4%S%,CJsymU`6Zu-VHjh'tCjQSVOggX<
 _/W4DkfGPc<&@F'_]dqV&I=Jz[vX05GRa@SPmIk#yt`.eiyXHt>V6.pTLD+VkL(t4YqNfE$a9D@BG8U='ZN+?EMmh-%CrT88S^c
 :q'Rc0Y]IWH%c#llS'9.1/-u:oYv$rxP-uFmzbVE?w_UK#.h+^DX>zQL`Y*9vrZ-;P[Yr))E`wsn1y?>X@TkqFtw3@Q#K&xDe7G
 9%4q6Bv&p-cGO,wmk_l<Qm&IfM%+&ZuoJib*`uwF5jN..j*nB%uV8-DKnyvXX`KaF^iH;_LQmE:-A+VqMMBSDXgWKI`Jny-:2Ah
 GGl[&e%f.'&t(>ZD?-MYjaybUf'JBfY4ucW$Uy'O1d13dCn#zAng'M'y+8xIvdk8L)^&yTHpa2Yy?<gz#bJ=aI4bb:*FV_;hJu'
 @Ay$qxQZ[#amaeUkxA.yQ;ENlsLr&U<pmro=WF@DaG#Ff@kWdc`#P`N?Fgb,ITE@a:.T7ul?t(^m2Vd:6&B^,BXBX-+r@c_nIVN
 YEa;Ubm<ol44opcMv>y=tdt:`/:dLs>5@04`W&DeRrjh,dW-[e1UU[=t#v9yvz/4*TJpMHeB:<G>(kiy%_8?WYyG(3)`U]*=7[I
 EKJ7D;kD8hJNq.X$b4XX2:PF_o0$]W,KLMJ5<2RljuDC<aEY/5wT&@hefFw)s$C<vTGy+')0pQ>4^(z01uz)VEgX6mG#R$ikeJz
 _ITRo4p^UFpLeO8Olq<I=xwldyj-6iFlQ6Xp8eDUFo^o;G`fY,jNWMZD(%i<3wL@/cLto0A'ueE7'?p,U^0vJYp:Q8=vujLC9FI
 =-76s*c*9w4EyA#tqQ$6aMVR(c5%6lrjSjDuu)&=IJ-iu4C9JI5sGx:O0e*du?cmoZ*nyGoW*J2O^2AZI9FDw6);'xa+Hq?T<15
 'd`)[Laqy]N'6QHJCGp&D[)Y*[99<O*nH%168%nUhfs+vYq90,4^0zFZNXYu[d,-L[Yf8JWiKpCm;5q<G,_sgrWLel9dqKHI#vg
 ana;B?=34leVdYA'ch;m662]L//)kD?eB??SrSLT1=J,2r#9^94>t:D8>=sZMUE(^pen3vHPAYBLq&@GeCOZBryF>4`.g(utFNM
 '9d^eJM;Q>OvzYr=8K-'Z51<ZO:h]&.7z/(/Q[S&baa-fffPCF&dM&FY@A>OWp7@&B,@]dbK9b[=ToA$*Fp99$&/b7Naju0)dn1
 (rYbNavpg6EHF@Th(PFXE,Nlku$qChKb%H'x[9LXtC)n?k#EJn%#zpq-JF*`ABCpOo-zjKaNS.Sx,9cYee)gAp1b?h+zq>h'8Th
 XRxKk6.N]m#^pF*ia@nRqgN6#2-DIOI8%D]?<`F`@O5ymM<T,bQ2vA:Y?94c^qZi5mbtF?E^P#H$68bg3[:L/'`N8n>s'^@N3dC
 xCD,(<dEZ,0uFK2*u>=;yYF9kr:c7AK)wK@1Cy:TgXFpJxIP<64ndGbRxU*)S)6.6xyl-$73XyDX<J>:.5GA'hoh*dBBX`R$t^4
 pcrz4um.`0-tJVCb:K)qS=fn<[Dt81FV5@:hv$6l9]9ULdFvVuMW/c2D[N?*[)m`Xt8f7f_hV>Qt2k@FNH1,/Ks<b9TjZC+UM='
 r?Kj),Xj4v#8qm.%zL7+e,hvtp)8(IfxlDKwpVNhlmm?,<q1P<Nsp%.V_YsU@s&W1ajetH1jIL?ktqYFn4qMp#5d3_gy^7,qA2S
 6FcEQ<Dw%Xczg0NnM]@[t<,<(k/XfK'B9vt(JO7w$sbb'=_tylFAcM9B.Tw1j$ncgYkDN/dj79VF*v4U1]PIexwtRipA6#`0$Q2
 9;mS/nv,$y->^<j^iIpMh),Zz_@JL7`W,sdNFeF^1fc9=ncG-g3DhVfnJXSejREOL#IyFI?N?YzJicyG`u(?.G2,wF3cz2h$V:U
 `,&UqpqXZ$67'vH8n'iwHhV0M=b66^qikW)-T?P9+I#6*RMtJCrog^hBUd78mlY9W>--%OxEjM+gpd)QN<z7iB6g9)/6o9d)ld(
 (IZu_3jVo)0wV<dP1uN-R1VHiDhqt9KjytwnaF(HlfGXngZRrF/lvAK=4/gb(t'b#JV=bE:K5G9*?fZ`L>W5(HOP29hRHnLCuX(
 wPIaQ[7VEb2KCk.,4B4I)yH[>cz`PX+DF%%46x6:D(*v<o1%&M>nVm4Eb3/hp4P^(L=ZIrMoc%#w&Y0cv^iTZcCNZe[E+#bfvK)
 3id3K4Z8pfPhZQskleI;ehtq<ztdYQY.?x%ows4v<OuxUw8xhofwhr-3/?Kj5J+,f-5/Z1pmQg4/O6u=H1`YExSa$7spcJHS)ho
 i_Ig%bheeK+=8,nu*vR&Iy6dSyQU@3O)f&nSrPY%-dpJd3yJEH_`&'#%7RfmOSVECfqJL[@]Yn4gc=W_G>K^63"

/-- The skin tones by name. -/
def skinTones : List (String × Char) :=
  [("dark", '🏿'), ("light", '🏻'), ("medium-dark", '🏾'), ("medium-light", '🏼'), ("medium", '🏽')]

/-- A pictograph in a skin tone, which comes after its first character and takes the place of a
variation selector. -/
def inTone (tone : Char) : List Char → List Char
  | [] => []
  | c :: rest => c :: tone :: if rest.head? = some '\ufe0f' then rest.tail else rest

/-- What the name of a flag may begin with. -/
def flagMark : String := "flag_for_"

/-- The sign for a letter in flags. -/
def flagLetter (c : Char) : Char := Char.ofNat (c.toNat - 'A'.toNat + 0x1f1e6)

/-- The pictographs that a name and what is written behind it stand for, with their names. -/
def entriesOf (name shown : List Char) : List (List Char × List Char) :=
  if shown.getLast? = some '+' then
    let pictograph := shown.dropLast
    (name, pictograph) :: skinTones.map fun (tone, c) =>
      (name ++ '_' :: tone.toList ++ "_skin_tone".toList, inTone c pictograph)
  else if shown.all Char.isUpper then
    let flag := shown.map flagLetter
    [(name, flag), (flagMark.toList ++ name, flag)]
  else [(name, shown)]

/-- The first words of a name, each with an underscore behind it. -/
def firstWords : Nat → List Char → List Char
  | 0, _ => []
  | _, [] => ['_']
  | n + 1, c :: cs => c :: firstWords (if c = '_' then n else n + 1) cs

/-- The pictographs that written names stand for, given the name before them. -/
def entriesFrom (previous : List Char) : List (List Char) → List (List Char × List Char)
  | (mark :: cs) :: rest =>
    let word := cs.takeWhile (· != ' ')
    let name := firstWords (mark.toNat - ':'.toNat) previous ++ word
    entriesOf name (cs.drop (word.length + 1)) ++ entriesFrom name rest
  | _ => []

/-- The names that stand one after the other, each from its mark on. -/
def marked (cs : List Char) : List (List Char) := cs.splitBy fun _ c => c < ':' || '@' < c

/-- The pictographs whose names are not packed. -/
def listedEntries : List (List Char × List Char) :=
  entriesFrom [] (marked (Text.unindented listedPictographs))

/-- A pictograph by its code points; a flag stays as it is. -/
def ofCodes (written : List Char) : List Char :=
  if written.length = 2 then written
  else
    let codes := written.takeWhile (· != '+')
    ((String.ofList codes).splitOn ".").map (fun code => Char.ofNat (Text.numeral 16 code.toList)) ++
      written.drop codes.length

/-- A name that was packed, with its mark and its pictograph. -/
def ofPacked (written : List Char) : List Char :=
  let name := written.takeWhile (· != ' ')
  name.map (fun c => if c = '\'' then '’' else c.toLower) ++
    ' ' :: ofCodes (written.drop (name.length + 1))

/-- The pictographs whose names are packed. -/
def packedEntries : Thunk (List (List Char × List Char)) :=
  .mk fun _ => entriesFrom []
    ((marked (Text.unpacked 38610 (Text.unindented packedPictographs)).toList).map ofPacked)

/-- The pictograph with a name, which is in lower case. -/
def pictograph? : List Char → Option String
  | [] => none
  | c :: cs =>
    ((listedEntries.lookup (c :: cs)).or <|
      if c.isLower then packedEntries.get.lookup (c :: cs) else none).map String.ofList

end Marginalia.Markup
