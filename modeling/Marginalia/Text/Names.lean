/-!
# Written names of characters

The names that the Unicode standard lists in its version 14, packed.  The module
`Marginalia.Text.CharacterName` says how they are written.
-/

namespace Marginalia.Text

/-- The written names as they are packed. -/
def packedNames : String :=
  "vFfG@uF9q65X[g:Cryq-j*W38YMNl_wkm[g`a*T-mAER84Fn*KJ7^gJ,@yDXNz@s?hHzaX=+g]-qZ8E3G-nY'K=1ZK,NZg2Knaa
 N1);>2[N(XzpG0`?<uk-H3S-55c/nr^Jnk_`'4yr$V3.o$.aB?ov;UoQ=?yD:Hm64K&P^i?s?qkZh4^'>ggN6gXI[w,ZqW:*bd.
 ;O%]=U2*C^YYW1uF7JOb;S%.B#D_x@VcJ^6aKpE*X>tU%/b(]$4::H<8,s44x3nPiFJ,vN-`$.LxCxz%Y=`,0z'Xh#k81p=`c]k
 %<AeCd`X%6WWVG=H$m51^u/iS7:<3fMP>@@$I%E#bRcXhrH$_OH'Wep&'N^b]uU2d0E=l@aDT(ic&3JEv:tOG'xQrB27Yc/$X-`
 k6h_-s3Ps.]KHrdX2hfyX>MLbbI)Z7Zk]:9zRx(nr7=vJgjJs:-Nacn0&.7:cPP?-7c)-)*tW5/)Ih5'+(K.hTpY[dLkory`Pxn
 E8rlc`X5k/n8D[p;G,9DYt>rr>r8wc**A=u?_aAaJ8Jwq&T.4IdXgG5CM`GxoxFWgKT>kADV00Z?nB)*LR[+=Tsszds8]Qozaeu
 Z^oc[>,?n>REPulzM)1o_-FOv?aO.`$,bTllz64AdB?A=sX9@,AiqyI/AZDr=hf0_di%z8#kBVq@eNE^lp^ycfaa#[t9hoP*d=4
 .f&]^yJ6c)e?:,GmC;l3)<P]#Ex.S]RvSY0NQOhJI*.k#6xKxe=.1oqd:nHL(GoTV=O6/XdyO>X`8h@aFmG[OKX+U;3:FkrY3e0
 )e>:lE`<?kNAu43WLZDiDCI_lcmCAnNF/fAu73ha[IHWfaO0CC6f,57VMxjMe0xoCMrJdfG[[A-3ihGvH=;=i(p4]h@4_`45hGU
 r*9+iR+i#<dHrBqt_Ia[7.YYS&c*3K_<q./jVU9sc`COOd<A6SGFh6att6^A1(*#B<sB$JVEy3DLtkuAX/x.qz/p2EvGq_&0gx@
 .(Ee8)WGtoK3`ud>Vc9fB`WchUGxj_8r7+d#psPUS+lx8`Z-A<'a`vEA-YEc;qD>qNQT@tf5SmxXxzs#fAWkIQerFN[K;Nnf&J:
 =9PNm(s>yg<%i@0VY97dd55S$?J&WUyy>XbvC1(#:kY>g/ZTSaRMXBW+pK&TD_g#=&7*qe*]G;[*V)H&`CAkjSgFU])^UK0PBu/
 [1dAVABDHBGDQ;Xpnf:WC?Q`0<K=$sDHO1*g?>)_(;-oiGx?@'D9i4(v`MI_HBg.C;,W6:</1@xI5l&ZXek5[Fhs8kSq2guyF,D
 Wo;qtoAa6dMtzIaHz?dH>Y)kKV-0*?Gc5mNoI<-A#$20W5u?6pN?JmMz4LN1=usTvF]8=0G`%`nd(soUbNoUAY06U38.B8_kI-M
 )t+ocsQsd+@B5s6fYU9(sKfZ7#-$oQ.>@i(ek@xD+x]]9vhe+;%jGR(#z9,Gy$Nl*Y>iizzzN#@=>A?$*/r2o7#OvJtASS+pvZ:
 hctM/k;pXX4`iDci[KY=u5^;vCtGplUzK:F?sR*#Jm<Ug:C-M^qcPbWaOaJV96xtK*6P3_Ca[,i^/M+_q8p%tNR_Xbm#9sH[wL5
 4a#@T_eLdSFNo7*d3;%.&IdOS&G&>>2O6EY:6K??8,>hAmYt$<;4@4k4t84MW#W,h;5ZvDNZTx]r:zy6[kj]$l^HNjp(8,ez9ds
 IZdr,RkGR?;HX.qj#Td*)7es.9J4lM8lMerR;pV7$lK%=y5xlv)4x#tWgSLO?8:HR8ZWoRfC8myC,P.:H-PaZkr#4==<o]Ng3=q
 Y<51aaJ#s;xQ4+8'Xb6%m44qNqzZ):OiUaV-_wh77]e_2O-)KR^inz<Gbse<o$h:cD#E<)x=os3sr:`j2cjvI[(L?&zOKS12-*w
 9n-?/4luI5Fq)?e'XdPq:??o,hj'&i;i)71^ZGCvFc$3M_e]dC(FyMSCc<H)S5S:,K&rm;7+:WFb+=I#=CTsbW7@L3yrwd;PlXa
 uWWMEo[uYBfKb<wt7a5`LN?kQYIS[LmI8'`We;,V8#z9k)PGEVZ9@qO?9$lxSBD(Ysuo:ZA+lce8JqHzDG?n<s*9n)FfAu$`WfT
 3#'d;]EgggJ4Qt$>;q4SAiRzk&`Xz&At$fGP1>yk65_ks6<w4dQ=pA'F9Vkw1wV:Gr#[moW?@E+Y^e5#W/gKD2jcKEY/cH@gbCE
 -2<^QzxYwM?>iRc`8%dckwqsf3]A]e2=fCl[&x#&PcLHhqY+zVfL&cf.UI>t`bmGuf/s-P`3QaaAo[V=:>X(6A&qTu$etat,(A4
 @QKutZRmtk<%gFu7,V`--2al,z@T,Qf3Gh3%P3fYp0uJ8QdHstB:CD^@=NI=ntmrk<)`/x<5BV`exAo](b=oaQ(z8&KDzJX_O*C
 dkQk+L;XT88y$&^;7Nm)[d.Hgg8R:-y(na9naf-ANpOiU1d9Fc'2:yiaED@DX0`5x/#&$b&gvE_dTD'FC38E=nxQ[mGa)Ra^n?(
 z<`DYj(m6>;UmVu/03RTFM2iSzfd7(9&Uz(LdQz7.vM0M<*BLlc=l)UffB:)C2wT.KQPo6E%:/tT^'1g9uiRRB-/+-RVN.1[yE$
 31^YBg_Vk(ZPJn,x<9X:r7='arG=?n(E/X#?ao3Vp5Mh)yHk`zycTDg@TRKhz?@@6q<NZ[Q,mU5JHUxqw;X.*v&T/Q/NQA(Pxlh
 qj9zn'&idQ6*h/wo@iv%oE`+8)06PwMX.w<L$.9NKmdgsxrD:)cQ,%tvR6p'dB&<y$*J$[(8pP[;ohi_2P2=kt4CtjEmS2c/k@L
 *(EcuZ&*k]UA&1ow[gh#KL//jM6c*RYxL/':l;(&^a#]EKP0A9Q+RjR&#g4Kl?D3h&ZR_G^@tG#wN(aW6b'&S2aW7/*I,B-lmvM
 =Ez^+YH*qr&^iIQ8hLv^K'=rC1Rfut,s.>a/PaiA1[LTn0%v[h,@g#@wo=h;7@[##sg-'($F#AaIS//qPPc.sba,CcL<&.<'I<s
 rWp4mZtCM4XIaC(^YlBNNKjq*Rw/+h[&-3M7L$&Fx@Z5N[vParuaEhl=vx99el/`d%7QPS@C]r$^)l==d<J9(xL9$(c]A(<=?_%
 .=wGikoc``)r%@*g[YdqG.j&Q*rTP:m];tv2c(IjKf.]wK)1r9Zp6K'mi,VVtEM+2ReTN$8i^^,3fAw&Dzs%DGw+T%N;PolxAMp
 G-:d5pz@Z,W.nKb3a5'2%RA[MJ.Z,J@s0bCV*Ms4l5tHau4r^`(XOd>nlqhawJ:.u_'Y1ZP4lCC=L_dGE)WCGSAlfQ?7KI:fH;%
 kK,-FJE&#)'B1/?f_iYa8eHbOfj6#^6?w]+9ieF%_6XIFK#V@?ju8;rB4)DjPBzaD,S9AC%aqU/`hzjj'b/f@5FVXeM`di/LdJl
 ==DJFEXTDqdWPjmStpf8ZIvF@pOuBH[S:UHCBZxn:s1h<vMa?CrNhxhg0#d/V<PRjUO_ODEvgc'B:9BI((<-fh8hD`$25Ym5WFd
 @^$0zsuEZEiD#:jK6ekmggue:]>w^R]L@G%A@gDlrivlv.r[HJnTvDY.MlPkUtHoXM2UHrkD96E.X@4Lv=m<(u=.QS3if;<UT^.
 x442_/ANe8f.a>blMNdKYxLzPvet>2I98_S$.o8XLD?NdC&LEjeT[97XrJ_;Mh#LgZ^/N/5Mi9e@CL;i,k^LR1DVu3?ho`Rx+Qa
 bG01_4iO[GRqM/J<t;X)*muA7[X]L^2k'sTt$MA$_;D^:4l5>g*hU.Kf-6`9cU_:OuU8j/][T5$Ynbw*L@dA#1s_7O0iX%Em.B1
 N)TeaMr-1vyf6KXW3Vo^gma3*h='su9SwF[j.ZK/<tlQrqZNa1bxuhlqJ.X7aEst7[:Jro9(AEU^j^/btaAW#vo?kCcmi-=7zzO
 hv/<o[ku`OOuZr$Dz_omOFA[5i;jOnf22)V09p_wpq[G;Lsl[*+,]:mLnF%YEf85;c%,C'Ca:j.2S1)Muk-(x%-ybyuo(l$$<OI
 GR;1uJ/?<(Gtwx07(C:I%/;Y*iQZBMDoaa#'.SN=_,rfLCG$p^zbGM21*&IiYfRD_[MD$:.K$'4lYf_yr=w6m#f]Fv2Fiy(P%1a
 W,7:.setv-@`zFOIYwUrf4w/xi5xvuH2V(k&B#/uiZ<:jD$l?l#XYHbSwENo%s]x+Rg-)6.n@Td*YnpRGl:U,]3<dm/hBG_4.)y
 dms;[M44)r/a;96;CCDr&aZ3<jzB5nhyDs,?F_Zc0hj:VE%'&(^KJsuFlvM,,_A`iR#]v/^UjJ(Ray,jj#9<GuF'E(4P^iO^5/Q
 VctZyu?2fprIh%9IXZs*=*fbR#]@K%PbS9uQ/88.iP#ztW=DL(,4>:@+I5dooq[55D1m-9($9r6TEmby_baqoAIyT7XlnO$/;Vl
 Smpy$x`cVmq7a-0)3rsQ=XA-)tu72STwscc^7+C>)j^SV1$mU.&P+9qmSF#g5j_h>,[[iL.M[MMT?H%_M,1j9D_7Ve:VD%pw;iX
 3de/,>Kb6wRfkIci2gP`zq3Yv#QbxzDs?T'Viuz[_Y`TF[>#K2>$Gmn9JfqP/-z;3cwaFY[qG@=^P'esu>IE?)96#JvFjxh`h?q
 =X/TK1B,1=)ZLND/A-fR^;agp)QDjgR=fSc)v(JL,*[-U+fpPosvP-Wk9qPL#n''0H)=AV+NSt<m-pEX%75iahV^wEOCXa6UifV
 d3&9[Kr*D0,`Na'UvJW=)vjTj]cM,c&d;p0rsTGxuK7Dz`t6315w>MbsNpFlCiD;aS6[3WR9@gvI1YoV8#s<PGiBv'lI.1>amn&
 *`7EXG6_7:p+-.,0U^D,Fm6pGVcuoWxGe/*o#D-5ZsCO7Ma2_&xD[';:6NPTb@'l=OaRWj7GcyQoP_wCT)=(YW]d<G8,/_i7MD?
 vv;s%k@[@[%=dd%km&;yW>i=dVF-iGF%9l3O>$c:N_M<IRZj-L'bjNmz6`>jrorrPA1W$Rdet+x*yNpfjic&e$4H4k_a=SS2kiN
 #R8`LxZZBiNq7/Kxns0azl$CE0O'qO.'_W_O>TJQLOsGEy+%Lk;FN(c=^%]bB.%Cm'ZB0(MLvsUrGa?[QQY*/fmaG@J6CDhi:cu
 JSL8*ucqO_9aKp/Or#hv+L^@-DDDE,Y2iH]`('.?pw*hxglvwF]kh(B_fPMd*7^yR0:a2ADbdPa670DAw<2i[mGR-U>u?O9eIjV
 6aA:1jT[<Z-l]:q.$cWv*o%l^jPypE,?/Ny-X?cN`XY)1F@khQGj8@f1L*_M2nHG*F[B).%gZ;):Hk#^wb6*IMdAV%z+F^)P`T.
 l)w4a&ElykMT5-A0+C2-WWm5Fpn@$an%)5NM/.tMu>1xXHv7eppAY4ed=o@:.5Y4)Lnm+7eOdwmgw]M4A6wq/>][ZO%;jWn)lDE
 y9oocRj*B4ot46uMS+'$Qo9r=c$RjBsViqvtv.>qGQ7Sx9_Pau[%3kO[tht:%e0::5+Lo;IWgPp>%]7oPUNCf]a+hZ7w]bs(2wc
 z=^P+$jvJA&M5w>0bYL'c6bTE:@aC/;on-^BNJ6yvq2(0[3OkJh:DxlrCM5?P`;pdd#O;va;aAQ?zci@b(KptET=Z:]-JVC(z:#
 [mX$M@q^aU)r(e7_OiVO<v+Vpola1m,:FB,sD4Gg2ZubSJDcWIU=5%N+&j?.yB#n.Qf'k@^$c'A&+f']vY7:xYp-H(l]mnZ=TN%
 SH99N1)'UkX0F;CfnC0/ge>Bd3AWbT,nce]7`ePAv<`&/Ft+`GRKiSa(=W3Y_JBS/Wf'GmO8V^u$YHY5v@2yH+/7at+VU4]NH]Q
 A:feN`L%zlV3^JmZ4C1-]$lu&)ynNqktxnH)0A,0,(gU4YYay.So;-*3/6-sVynpfu_4qEfrVs.O*Hwp64DddpW,Kx=9<&hdDYV
 BF&-&bB>wS/7+tVzN5p2m3jQlS3wI_sM5h*$Q%B6%y^0%^f,W</vI?Q3L*22F^j`5o;9?iyr#&nfml7J`)h91I_d>%%B%Kb[fqw
 :*xXLsl1]R&qFseb`L;JfDR_a-S.(S'X_hj3$9JLbpg/#DdN)vi$(dH&jW4,$%7d^CV?R@Xge8)BLF6>98h+an)kb-GYl7u;sE)
 vJAQ-%</0A;p?3/$8VFAR)Z+D4h.s,,>RQ*Q6-OD.DU_&[k'CQ&9PXW(M*sc(o%T2>uB02=I$hG`qL:uQ`zeKEd3((,O<=`7)NB
 Ey5Na6m>g99<au;VB%R3F$hSt#:h@Exi/lf:^lI)+wiFaBd6IJP.[uJq@DY@ETd4QOl[b-&T'J+iNf^/iiXDV5+QS@L,xBIy%;.
 -.-kSi:t*cz[pso`Zopg2T^UKxLyhUi3wry+`_u_B#U8E=ik3av8l8&-dy_5W<fZ.KiB*dUokR5.,D+90$VHx1PwWY9yy)M*kfx
 [-kU?iE$hi.U45+=.sY?A@#t`+>ZBUnuJ`#]+WcpZxLMy5wm31p9GxfkU`UQrhNyC2d[tQ04.URO%wIY7$(%<LI6M%TGXf<oT#7
 /k1,DytK?0Zl?JVb=OK&n`v:t>yff,7kZ&Zs#JXuN%P=A7DY&rr$IZ[wD-?`EKmUf,O5bZE,=6#<<t@xO6W'W/g@C9Y;haAyQ8o
 n/rT:^IV%%$.VXn+2HBZ-L1f&hMjFZK+C5t1S5<'xAw&GPF*%4]?R-@*o%'kxPQi%O)hfPdv/o&O@3JV%hp8u$;m,AnJa(P190v
 Jne8o`KC?K$7?SHAj6vV8`l>wYb#%yb[]Po.p6'2;@/CSzH7+g:)a+BSghT&&4jDRFz0X&ABADqAPy(3cY)#92L(X-qg9@r@BmW
 (AhS[$Ex(+UW.:@cQcI`.4w^``2b$Td%,n3$u_rLTs;BC?j^,w:,Camqr]I/3mc:4b#Vzke7$&jYAGc&v7v%W61k9K$Wz$6b:s(
 ]?WmEfHdUp/Xx;462*;9OLj-];VxX/mTpr'FWP9`9K+'H6'91H/C9XX%XgLjtU@G?cN40D@[R0S#39CvB#o32Z'bW6tq0_?K^E&
 iHC>`/zP%8&n4,X&uK]?bY9?l2Qu<%`Ap5aQL/sK@.hkrcKIa6z$<3QPo_`%VVAQyofHKOv<-?393Ma`rEQ=OiHn.mRk/Yt'$uf
 GB&iz)*<pz];JKCr:BgACo42y6M[<m]Vh+]HIaMRx2o<-vaG;mdXkIvC6b?.ppC'Ppi,05VlV0_As2zJb+w9z/e'qGM?R6g?-s&
 cq3.U?6ax.2=rxLbYqH=7+*8&'Ff9C-pOMb0B&6v1;`z;Mz*EucTpvvm<#.[lF(qP8E+^j)a'YgEQR1IAdU:26U)`)u0F-xX0WL
 <:A88c0?d9a1fp2YZ7>JTeqMR](y?hr.8P(<EkBG%JyTZb%zNXYyUsoPZjAvum3iRaJEz<?_4k$7B^g1/_eNIf;Q:t@(SBI+OWD
 4dO?D[2^xAM0Jb(Gj<4<W$j#TB_vgy2-,UvzDDY:8ybo-E+XF&^>2ShateDppWdvY=>T37[xw*1rJfD1I7t6&?Hx-$WE#^94^y8
 EmKL8p#(ssph'-VDnDUbi:+pDy&R6?u9a`Zo?b5a^+_Ci(vQ6sF<#m7%yD6Fs2%dZNIW&ZyK=-AT$P2^eUd/FCE1OPD3.IQt`sg
 I/Di'Bd2ZJh87(4)vS`n::xxSn=;fz?-Kud`vTwmBH_$#<xosC;$Y,9q1Sgk]4K?Wg`T]R#P2+L4O(4#W4SevT#$NEch6(>-z9P
 A6=QH:kOx8]i;FX5..vj1uB%+L<aZ^ul%6HkiVT42H1SK[`6ZH0;(;'bv.s7<z:=9wuA+7R<kRO'.v*XSU;(YuZQieqqcQT]RK,
 Nu;jNy.f?L-U7oEYQq>2#Xkt[vu.hr*YzXz.Pn0:^><lOktx)Tgh8J;C;9:j##t&30beY(%u<2@P8t4-rtGngjozS?Wt=<I+PV0
 nAb]TjgDn86]U])_f&(,XHAjh7o6n9zb.>R^0RKU*ifL'HlyUV.(:<-,Ydtl@Xqtme]_mycNLX0wI0pKNJl'yBGa[tV@r:N](#%
 >j-w)S?r+TfHsSUjs`J>#0Sy-S&Z.^:kX>L2.o[+TJt/c+FXR-$#TggMf_&ZLo1o=Q6&[mx)o6OiCXC%Ug<SxtdwH6wUSIp4?f1
 IX@>;*_PLe=3&c3NyOIqz*9ssn;d8<]NT+2:U)_P<z@+s0ih?/:>cc-Wl[hLZ-;uj3o45YMB5Hr*3C5OD1)Y1XGJ$A65@qh'h<+
 /5m]OYT)*7UW_kl%];m4N&)z2-5HyM$Aj+=(3>&$oD?@E^^;@%-UWSyiYWSl#Et.mF6=s2OA[n;kqlBn<36^=3;b^74k`HyUsh;
 w&7gs,rYM_LWBrR^IztZ_.`;tcc-^(crT9@ebn9ANyT]b)=b_zH^2xV?wOWuF&ng2#U7ZZ+EfS,$DK_KeHHF1y6z62;2]Ymp%kG
 47E&8;jtGd+8/OGD`M>p)@v,QlBCefCRxs*2:N13`rI([l(O$.u%gHR`SKN8)6x'-MvRZ$zV(mb%vhJI0-qSM3H]OQ8>'5q5#aZ
 :Q2l^5V`3mSG0$IzZc5Kk,N3tFZTN[xIV&LL]`Fa7b27(6eQMIAA3ALjLEX162f.=)iT@RyalM]I([/R?t0#9F0B5r&(I#uW(Vc
 JmogY&9l.OKHjlsf(waOYc;eP37*gieo=53&/q&<TJa;-,tdl/`b)rx`@C#N+AVPy=c]iQlHZ&`F8O*qZT'_Lqo:>jn_CH8y//M
 Q:iK722^byvo#9cg2j.>kUZ#N2NLG++s;8jekD-3aUM&-JiD+C;t0dzB`)#/Q922l37w(n4J77ttR3/pCMiyQ7D><TL1K80snie
 v8PD`KjwuKfcfnKGAphvy:=:/ZpaTZv1tz-XshAjy.4B4]8aAcSr_3<6qZ5,3yu;Mb%0z-,sf3>2YO9LLFy/aKc1sG=ZBK5R&X/
 2g95E*GBGe(;wzibtPn)c=w/+Q3MvZAiei:;0AL1(ox&(VLE6Prok@l4(S<Eo'(QHDJ(89:Y^p[XA_z5%EoR&pBSHYEpIAc>nI6
 $bT0RCQqsR$eE#?7u.3o5'l2VhOBeQk)cv&,7R<`VedzhEc?#tXaB7Yv=hSM5q]1modH=/Wkx8HSCk@27_0jkUfu5Ornm[B.'1*
 p]ntTXs/kn%=uwn_t/,Yr'+dLadqPU?$^ujg#7q,87sPl?Mw+*GV?E`f?qlm9mhI^eb9XYX9=Gq4Bm.)OPSa=xZ%@s-=$?;Og)0
 _NC5N&P59;s@<mC)d)ysXGzus+B#$RKXhQ*efns87A_P[G]#7]9zqA@I6?`Z2Z3Atx'&/xLq=g`)a<UL%Aw2rJNU6sz9sD3_x9E
 i5y0NzkNEC[bQ`7Dd8o@O(xu=cRTGa)h*E&pk&4_rjU[$oU/5vI3V_G$lkS;?mx2;3zwDdV,8%&0KYS%X*zSyumbt5y,z6,p5Tj
 GF+&`'9qRpUQ2dc,dw/mp;]w2_uBc-(TwVoGW'meO,-x+QV<[2xF+)b`X6[&&*?*4*c;-f1Yp4jS?V,?Q9U>Lt>DBLa>fSK7Ch:
 yXi]ihj<yId6#ZpiGG?[CX2AulYmS*tdG#]Zd3Z`0bpN=;88NzJJ[2K<Y^nXC2z]2Hyc=XCR8H3*m)K-U+m8?xfEr4)su*720Yh
 >[Z0zF8YJ$:i=DO2u=^O.7YRbv)?h1yfVxwv=A2hW'g031xH_H+a)^4M-WBZL_kOyzXI24OK7(/6xrWW29:b)#&h#)zT7Smx2Bl
 p@UXH:KnN=`_;B'3RT#+[6aFW8C1hkM5Otn#s<U&'*LeK-F8_01,)G%4C2*&3LI,Sm+MA<$)H_H72^1c%K9DbxS,N&HKZQ_8Ys1
 #@;fG@[Q^92gr,&EKABNH4V2'qr>r,`#to[_J)-D9j?&q0;V<j<dVw%p*[xM2-IN/??n^M4h:>BqMGB8-CM/Tl6B2RHU1-RvFs>
 qvVehP.6JH07Kx1a7DKtZu2b1P]NkG=s>T15$IgazI'fsDuG^Jxb1;U+%2Psz.R=*kicov'8e@2s=d6*o_4eq.tMLwZ^($#Wvs%
 35p^e7Y8uaP)r?V?JbIZ#Z'><tKOLO]`TPgpFi'HsGZ,>5=<MnZC8u-/CYQ-_IYQ+FKuDqlJ]y$aU^zeM'zS#B@wJC.>K8lh&V(
 a=#FK([U,,dL?igosn-wmiEC<R2-cK=eadP(uHkq_Ry9WW+<FK[dhZ)fVQQ%;h,*YP`ql3K=g.XX%/SX`zL4tkcPt1vJ$L63WtJ
 (P=DdR&v_YlXM-fl$TzHV4MsxJufa+tGSC=WQxyZaiUEP&kL.v_EH%S^vImlR8)fRz^>%Ch>q'B(I:,k-.)Iv]%cxlOTy2AGf.]
 )x4Bzr[bb*At.#emTczAawzskY9.o-9?d)L)J<=c_OUcg]p;S.Ui'8hLk^9>9`f-l-ldXdaDg.--$hdzzOk?LF0X%_>c==;iKF;
 [Ui@Cq.#+bp#jg-aT)mu4,S7kn@Z`<T8[cJD=(x-P#bl,)W#?y;'k]uNN$@qG[Y3)$)9)I$5?th(RjEDd]4c$Kf6J&&V?.N'isz
 xXmmgd?pm`fVn,J6jr31C@m>[>pi=+9yWTi'@W>eT-#xaC^pjMhIGzVXa.[(coN,ACA^(%.R+4E8LB++N1:4xK^<HUxDMD7lfY&
 wlqF7WETpfw-#;2,9<(gOiL6@[C&hNLZdl_8pz,/U?H&uod4')0XIvr('v#%SZLA*;(x5MHmqwmL;>[:2nt(Z`Gn-fJ%v46%Ao?
 vBe0Y%Lc%qWNC<?b8R5%P9)S,&geadmE('9g^LC7qNsel)S-TIZ`HIjSrB:rS)z@#KlxppU_8Hbz%Fn2eGA)>5o(kF=:f9XdoW'
 G_[8kP9W;AT1e$(qMf;(KJRmW6CM?0ZFh>6cp-L&/,]H@3,TLxg3[,z>]jxG/W6QH=@c7cs/$]-HGP7T.jFi/Savz]VUl9O(Gb_
 `vO9wSzWfxBQ<)(7?z2`U&Zzjq8-?2KBn4xLwj[%GmY/Kd-sAxW=TuC&zskaHk^23b&mXiR>$eo_HHUT0O#$u%1UFb1QbClvXqB
 *%.nzR7PfRlwWO06GqhN?9BMhj*qn14,DE*T%tn<#Z[1Uxo)l#%M@=l]wsxDPc#zZlUq>WGt:.,j=SH'JI?wr>ufH3FIS[Kh<@U
 y&X:xLB$H*8QZFi(ysXfXJz,S]jSGcu)Q*:3l?O@DoZ9X+i[j^jg3-D.*^FB/8fG9uFX9`uY2.kjgIY[q`;74Zo]J&H2h=(2am*
 a$RMAeO<nSbvC:4S*c88od;U.LUw;b/,zOxptyP.(g]M.@h-MYZ_mz7`GtCUUGiNI[9117&G]@[si,-']s^u(+K^Q<Ny#<#wR_c
 Mzzz(Jr6vaJxAqd&nBqS<&ZWC'^,fph.EAfZ=z=W9(8TMqi*N=))/C:[agl,=lFn=+MR8^a,sa/;44:QQ5+:n*C5`hHscv[aZdU
 xI]XTVO&ibx0#;2P/<&'[72TH4cHnDtQWgOO$P;iVLeFvQp2iTjsQKn%'J#G8kq-YqHaeLK$'R,L/J3+FiD</A#/%p?mByZ;8Xn
 UlARwRJ)_Yf8:/NQ*7iz36l1?(aa>e8*uE_1p'%PhhgaA_':x+9cb&KMu.`@)w`n#ojYpsBh+KUW#)5$06vi0Ywd$o70og6/uZE
 V99lXz^>W7Ilw7>PXyPVs<[t*$vG%75>MW.I7HKV>w;*pG=O4e^Af)Y-$>/<i=BCiOX.f1^ruE*,hIS9Kj5pac;Hj`C^/y]%jsy
 ?J3w')tJ6VHSPc@W4x'?QmUIlQ*@(p,W,WjnO&e3.r=vpm+?`tFRf$MP:JQ_bR#vRXAQ=9pLrgYNo<5&a)SbqOLTnSGX_%6l%Zy
 ##65uH_5sn-iq?WP7B,R8HqmA*E2LHVB0+86CV*R45Argo8+FqdlGT9f/)1k1+VUt^Y@'F^?=O2/-YtW.3:Q:q>NTtw:jc)r2,4
 TC)OS%Ywq[kn9CJh&Nx$J1SWl+op=paoyHyUvZRJAf(>_&O?dG>pwcxSZ8c_^].E1'CL,6lNOQ(r$yU2_Q8)NKrw,ld=[W*9U,`
 s]Db63s`vELG$>%4MYlp8,E)48=*uxHY;v]iprZ[pv-TB[frP'n]?EDN_WK,hf`-]@Ky5H<Bp]S+_'2j9<4[Q9E(h_[@RP3QXk=
 ;FLNcskSap,7&(:HT#gA.rVkiFPSZUI4_jy_X5M_[olLcvD;xQkN@zo/,kQvO,UH.p1EO:xRZn&$aSsc.kLkRz:2AY7%'=a=P^n
 $i9;%OatC@K,XqV9t^?`m+Tv-y[)M55[d$llgoz&#_CMe$tDF?zF]Y^d(MLv@ZidbiY)d[,X10kGC_YNKE0TNn?.am.5m4$dR-u
 prN#Y>_IlJr_)HA6L/bjG>*05kGln1(d;Mm'G(Y98nB^7&N]iiZp^5DBoyjx/_#K'lCpMt#&4GC@Z#=A-IRpcWVf0;7Us0-Ma2b
 ^4z*(3?wbMZdGBQ+TWKXUeil6)6zk*x6gE3[>;$xw-5vmfAHca/VU80tCC>vHr3S>.(seuaRjWPmV]HmA'=[q'K*p>p@X_&yzfn
 HpC,M'*S>R)kr%bU=2HS`/#J*X#L6$+hF_9][(f7ZdX1wrW5wjSY'I0U5XA[Z#lGDO;]KGEz=,G_OaRAM=uK^hLuU@wE'RXof*3
 q+^RUOF26C)u-)`$-8b7%8[Ow>lR/7]m`+%VCeu,8^]<Yt>[&f?W_BKapDWEnI(/'>3][n='nR585#b]CAu?`(_-[(4;T&##w'H
 q%fP;kQQJ3lwwp%vGRa=3WRFmw_T01ykXENLd8fd0;N3*Z`x8gqY,Dp?UJ-t)9x:-Ct`KG,[>tH2pv71Z_UlZP+9kaHuWZ>_MHn
 `c[w11FbGJ;3A`e?/Y8:vQvsQfYdti(/Eg/8W=8Upii`RLczx.^[`bT&06KZ8&1k4`ypa:ydrd1WyHSJ<$7c_>7[b5ypfUm2w'x
 4yn-llPlb)qo&Q(z@s0k3%C_V/Nr)>Ah-IW-MJmxC7[x)wb#f+#bCdM7iH.-;IQDB)$jq:pWspC-L=/5*rsC[T;fbH?B]k?J6d?
 5[+L;65R&xi97zDkxR9.0yF&qqFmYY&P=%.n1t4DSIt59MPW6WMW$ok=X?y<Cvf=>uplG@Lc0t[Hwvdt8BRNyxKi`$E]&A6uO$(
 3=^ooqr/Mw=^P$n4qT$MJ&o=PZ]vg$nD[mD)4+`*2zzFS`cIgQ)zGYaFG3XF;YH5Li;(;KKEXS+EE`Oo=/mz=1]oAan9sg36%^Z
 -DdbSbV[KwRGUW7k&O/K[P7[2&x-(M(ifLq9]Tfq6'.A,QR9'9#9lnr:[:,Y/sT+=CV)nk<(7^v+v[8%Pd_/$Ss<hPswp'io,GG
 O1<3YCX/5AF)C-[-C*]W<t,+>$Z1pJ,tv,[UY'c,bWnNoL$Q/JtF9EJqC][HbSP,9vmw-+L;`'#lQroHZeq7zVKXny4U$XFq@k$
 sZmCB6A6LMy0<s-C8kYAO#[v#YjWVJN4*Kzb`3)KcfaX+cJdQeSyhRXN2]meEUba';k?3,Y=?2*v`*Y+)P`DTRE^mA7HCu%cA<U
 [O$riW`^@env3$?SNr$F(E0a^/9=6>WcqTio/%yfQ%@ReP)D8ZBM>%rw&eD,RWC:HbX0>g1AyVgUGB'7[H(rKMa1jh)$e#n1F+$
 Jei,1MkK.QSDke4uY41viZ9x;Hu4Q;EY@i;*@0')o/$38''WYw$>+OZ$OkTtR0<)4bG%vS%yLzy0`bLfwdfyS52PhdktDsG8NQb
 pi19vqI5A)nvgrprEp3BhWI.:J6>GZWR=s_DuM]p]T(R>gAV3>W8x#vc:;06OdZ_0ACV?(zncu#w)4RbY0RO+pFm`D=8/eM<[Do
 0BnL[),K%#]pk]Ey^fbV38K>q@'Hk5TIPst<-r[So]tVJM5PO+t8dQObO1DNX,Zew@@HFw>5FC_-Olo[BK$G*^WWQOzhAOb#9XS
 apIB,clsq-TG=lOU^<vK'19;nYPYb1xV+e)9lcgCBZb'L>^[62:;)UET.EgVXP0YB7lg$YP#wfDGdX19Efn%ediYreRm%'*k4PF
 =/IJ+d'c6aGWR'F1JF2Pqu'XDha/MvcNO-w<_T)zmU9SvqjlmDovfEmscFx3uO_Xa68jCyw-SpnB-foK8#^T-=F(V=/(qh73c5E
 wAiOhcJ=(7FB:3jvA0+T$9V*^E*RA:%+1fcOhEIx)p?yS-x0rp(*jaD'EqTWl43>leAfxzU36ZCEA-`a%p>z0B.9'oeT0,T.._x
 /Pq%:^WSrDOYI^*3?*,o@1zskHtf<hmKvNu:gA%re'AN.%&#E;u?z:H#yC^ztU3AVb;$JpGfOF<MpC+zBqUQHS9Y?S,4pP^>3Ev
 KQ3+fzgbqq#ahg2Y<1;[SE$)^)N/3,SFgL0wvnxPX+Yj5x^qw#Gqhd7?]%>=k-yn&omU<OPMIu,nqzv8LBfi5X#Q.W_oAOr+,8(
 uH@H/inVg0QyTj;'*kGEIG3/Jj^'WIceos'XmS%z^d;.Cc<#9<Ocyedd+qrBR_n$m)%sMvTJV?w7kD[Wy=1z>lL.)UV_C>`FB+Z
 nbZ6@Br$%ai6_*l?iVwui5$C0t[,@`WF#xW]NC5[cf+(3A?di=ud=B2TuQY&oLx3*wgMTVlX:/%F@vEr0pA=gl?74%YfKOnRJ*'
 s=d6lVrKaX;,M-(2xTapSd[T<q^a.A*5J[0&Bo2_&C%[Lg=$FFMuRLSUkFqmeL<sP67h$fXmw.fv&=(ka)*J4TBm%gmq-Qu$At^
 LawEA^>a$$8m*N>B9%*r4B`>(Ura_cle]JHjkS&F^ZY'7<nE:[MWhxa[CZqxG6#k1n;f=^$)e.K(rMyu1)PcHWm(#''@k/ox#w&
 S^Xr0ISn+glnS#Ff.LtMrR1*8IkWfG^]F_AY<E0R$r&pA&+P`xIs7ykdqj#PQHhl(O7W$1lF#8+72`9QrLh@Oj(RA#Dz@4:FTu2
 9DE]K#94T4jP<*#,Loh,3:Oi(=ztU3o<['I,Nvhej;kqm:-_oCl-6Nr&LG/46f>SAK:x3SP497E+@w&M-XSG%l+vyu2K?Vl`_IU
 cD*&sU;=CEL_vt<F5^ixN#l,s*@mC)[rMkc^ewgM?.a4sHdkB<pH$*64S;mZiT`?40W^;BZbuStIx_(a^&<7=S.qs0]EU/pgc6;
 8lrhG_I&;?uynJn'q6IF>BzTMEOO.:sqsVq-?3oU2IHl)_GP;](b[UgWId%ifKj3*K&Y'e[IMpMa@g^p'*`rhj0id$KJiCMe:J$
 uxY?eL,E.]x360>xr.tZIL=^,We<t%G>Q9(nWG#A[R`1>U)kf=qWDhjWK$sh26lhW'>8,'xjf+;_h6@+&TRxKse?7i<?>[OWrZF
 >wZ(/m;rL@Sy$EZAy8_]N=[@Be9_%P,Wl;2i.-pDv00Qr91+5?esEB+:EPQO22$[]uYUFnAX=:5R><mnFGYFmnA9;a>6J$w74R]
 pRjQ)I$%_(_%Ouz8>zNWOsEFC*6c8:)r/2Iy,3*yv4+I[i0[8XBU08Ok)pPn=[;UWVKy&0x^=rw(+nRcp#9.SC26T]^x^<MS@.5
 #V=cXm?<(qp]ndO`hsJ(Xs@c?^.jFXMmF@hn:<rMV]rNtL2(SJE$J]Y.b*qwMfQ:*z,yiR7I?nq1nw&isDmM(12XWJI.JFk&qjg
 ;(,.Ifr?nS(+(RmU>FSRwX6F;rx5roMy1tu?TE6)bXYWFtVu2?hWC89]:w_fL&lx;rH/KBSg(9c<8DK6t9X3OxkM>WGVfJEWCp(
 z$F6ZcglL@F4Y/9qVDeIjQJQ6%sNnYDga)e@:lc-h3+dVcW$.^2+40LRC8heF]G#gamGH+Y%QGp]i&=Kr(WOXzgRcX,U`#sq19R
 eBE>kcokyoUQp@b/r=2NP)Hp%7Osw@Fm?8fq+c@oOD#sD<drG6)Z^JfKE))S6nw=`eZdwM5p<uL/L3]Qc-RNb5;wp$t1-B^X=jh
 7Z?S57]`H+U+`JRGobVuvNdLp2kOebm1@)m:]s&z$$[hoh1E2`,x_BzNrA7GY@wv4&?w+8G:<M>nA>`$>%#,v*)dE`sY7ed0-`v
 `JyP]o<:Wq&n&m(Ca&$PIb2fXCpc7X,Gxptdwrc#c#siYOK?e5;pw(pIFaB$*3SOAm/q2MT$r>Yk$bHT7'8b?#yzPw%S_lHcRQe
 Cz(DHJLHc<`kpdgXn'-`X`Nm/WxJ@2zp8V;)j`CrFOsz+oqwQG0vq0sd'C7t>fZLLM>[BH$uTFy;8xK,<(/tMRe$pw/X`ol(2h;
 k*@So4I32m+zx,xdJjH(WreLK:0g)<3fMnxe,T5l.Fqb3dFpMy<t+2U`.WP*<o$DR-z9Ze,N)_P=C4lES;8(5HiSUpYtyHaZh;l
 zKYh<e#rGi8`W)zgGDvk2lGFf*846Tnqvm%v_=0.CbHvjDLpj1^mt[rwNSHhT>l]]C]3NtuGO4zJNO1L@IcJ[b&+u5dB0qXqJ5[
 9:TvR&r5n6)8Fw$#_;Ma>sFLw6l?clq7^+<fx:si%C>YU*a&,Vd$=;e<k%@>72wOmoyrxbqRC*U2nn:UKM*`lxK-IslT2M(Hmeq
 eC5?r'jtPMM0WL)z%,?oI%laStLkLRQsp<2VfZ?sAdt[EGZ=;_Qtia-9v&+LEtHV^&79P@ZM<`,9U5_^eLP]Odyheb]dQ_/GAM1
 K5x<kNHaX2uoSc`Vk+I/vyJ9]BDq;Oq$_h0m`bMC=QP5E1<gIYgas?[f(P<D:2Fv]_g$G=e,xn$K(hJ('jY=`0DF_ghMH7A5ouI
 MCTfVGgJn$o&vMJq*1(6#9^a.K**YuL<C.c)2='FhD,:RYXe1W.6v'TM_>p9,/I8@I-lzx4lwSpLFMW9)_j2<rCYe(,$obLaWvw
 _fjDZ7(fuV%aXUJFl#z`FdS)x(ZP>(rnv_$&Ay=M=,tI-0cn]>JO/'y95C7`%mA3Af4d-qbt<P71hI)O5JN<7PfPw^QUVSz1l25
 Z9sm&`j9z@3w&vkQ<P>.1t,;DfDU0+HzNIjaUo7xg($'8V.DPo?;Qa,Km8,aqm2qH3[IM>$V1WK@zLcU;O<t&xf1:6:0,6NtCdB
 DFn:R-zUgv8t5^YQMJ-98D^hzB;lZ$,0]uH2ZbWpb/J@.6Yvp60GBT[s>Fr^ao'Sc3#PNd5yqd7Y3Y8Z%cy;4Hw7ko`wBixiZu]
 E,%v'G8O9A%/O]d2jgiE+uqgKH55O%uA[W#.+K3,VZIEK'.@A37c.i`MN&[9hMqs44TyZw>kAU-U4d8ut3&BV<?-V]2pHdu&5`R
 X2^M$:CqzZ@D._CcSx_+(f67;/COHY>&kd^DAL,os2&t`^Q8kxrmghU>:HN`i6@Fypat-1F80MyFa=N#SY>V9DwZA'f]QRs2?u3
 _5E_,Osu4F_8oBgL/'u_&/n4S>LJwY+:se1'n.*6%U_ZQ*OQj/zcBs<?p<=YAX`=x.=M6z//EV5c.]*zZ2fIhm4Dyt0?JQR>%W>
 RGsRcg^p9t(*AOz8[txbXjiA9$RtLy=S=clr1,oS^#J-->78[0m;G5E=8DZr2-mu51ZUN<U7_+UMzKn`r@])c>C/DY#wDKvIjS:
 M5pLnS7)&w&v7HoU?<D7H;ra<C1hQnwIL->^p6j+HJrw1HBl$ofBsK.MdMn;dS$g1fIY2[2cNi9D(^@+EPhdt>C1$x5Z0+X5D#n
 n83x0v53YL-&n1vX802SaC=a$[(G4G+-d_Tv-G;3>7FVV5KZ^&3KApts^;&YY.D##lAt0?JdKSD`c<,s`A7Qia=BxUjD$)S6`z;
 3&jO4MIH*r)6TzLZ?Z)s:9j?wx&:sz43/02GXE3bir#bl<ZAvR)bu#>D&DiU.h_/y/Zt;C#_`T<8hW&``r'mO(&w_38iFuK5Cbj
 :AYT^l671*_fC>?/TIJ'=g$wlf[[]eU>Zi<O%xUad'5o#As_BJIv$':^+4T3;:CA7L1E9:t<<pImH[t(KXdBV*=_8Q'=A'S33f<
 SApD,N8oT)l);NF0<-DxuXC+YA-p4hUGxJ5r-$&SV8=t(YE+<&]N7`WXUkxXIBA>q%+q%AF/alwYs#/S$g.(1K1FXbZZS$BzQvG
 v2%:l/Ix$Vmc3o1q_CXLvn27da2>iv@QB1%&?/aoTnT.qCOGCaD`nhqjA:2^Z2eG7j>ZrYSs3hvrn.$O*x;aLydW0i0L'[.X/43
 Us0sj,r2_J4nWaf)5H&g[U.o7@Xo1CyuxcEo#L-WSEu_-6B`e4Eole4HvXQt`We/#>pLq^D:ZwfE/ybT#>yHo^p=(J..FQeW*]%
 -u?yFeA9nN]Pk:Gh,t1Nb2L&IWnehaz6B_R3=xLgwf#4rzN=2xSEjUMxEKNC3YU9db#M:`PGsN*%G)tP'(8#usyD>:sGmx)f9rd
 tMb@P$tgb$;-GAY219>:5hFY_t20]PG/1x7N1/VMq*Z;SR+oTZEp#EbuCp2BJKT8pIbl(?UID]z.h<:U:r/%3zb$pLOaGl+7`-q
 8H[Y2_L`g'TBwTr6m,8;Oz`afa7Lms;Z5%pL2mY_CT=4LzRi69@Qjf<A3N>JLSG57t:/JN+5Z<N'(qI9mobKK3;F71X%;S4N&jX
 pu[co,sA)2R<x-x$<#krMXH$/H8<%*88ee)s_?$tF9NwjRe(bgJJ(BF4#u?Tyn#sY#3IT&9L][ZgsLzHLsL7=sc[Zwe2p7JuNhr
 ^$2z#o'ZFY``lmFD@:ElMu$jy.[X@6,K_fVi[&.bgYE%xDl*Ds,?gz-Mu;H>n($XK5B`5'(9f5'LKo%?mp)8Rm,zBXw$gWYggg,
 7Ir[nDP4rK,dOiJHW6rpeu,u=QN<+q$8h[Hfp?UCm]pO;wJ(TMId**1ka)P]qoUMRDw;AY_V+b=x=zx47gE+[6^p@2mqd-J2q;c
 j+)nTBj9B$G'U)2Rr>meA`d]'J<Jjy<;IReZ#qCvYC8tJ#L)_[Z=T`+q_'rAl>KI3=+b&),g2J0x;JYW*<kH$ZX4iR[jX*6QJfY
 MWS5gteM6yfLh49K>:fB1arJLe7ii9^q*i+3?)N)jZNpR:/W8_lF8fl=++CR>,P&?9z>c<YE_4];X9`Pml1mQwppZ+INh@n7ASu
 `jXpC'(SLMxX-)[ju-g-;Cui6/Y:Ed>_h:Cn-8/n8:N`]Z@4kmCY4W,gQAJ,U%o4S&TXTKq2cscY5e52f-#:J3WfC+>>E6H&fo?
 26XIu15Y]3g7x43/6WL;eg.Kc'N8Fy.rh7Q+Wa1lVEa<D$;/wQ<yqTh^zn:?>p##8XRhzC4<#;#7<`-]P%3ws6?vNBTB&U<Es5w
 R%lA@KZh-bQS23D'maEs4KGw.zYaL`?$`xFd&s8(=Id)o*zhd7;AQ?e/<c:#Ki4p-s$Dt(;:Sp<[xJfP;qGdv$'F^JeZ0uMm'wo
 ):-wKkgv+kb<4JbJ*hxNNCs4)Z$meQf_Y-Fj*K<Dy;e9JDnYh'*T<jB0y^/C2<6saS9,b]N[85Z=Pb9bS[],VEQoI`#nA:kL%eG
 Oc;'s2t=-0Xs*(3Gpmy[OX2%d=g%)2dSl>2*aD<L6ia3B1hQZg^UY4Z`b/I5Q%*ns36;%Ti/MQocm1T&O-R&2MN2kVN)d=4A`)]
 jOI4UDN<&HPH*m?%2^qAWH<*i@ptq5Apa2wn9VkQl_io7jXdy_df<(9$&^sKMSLtB@Hwk^/B`$FDb5Q=gKE'UBIM.'0]iZJWTiM
 51EmLM5K3`:q#VJUd[.VI<weXJD`Y%O`cnd?fF2WU+fQ9Hrz%(9I5]18ITm>tZ4@xu63q:j]2CM.<W+dgH:@7acMW+e]NaTJb5I
 ):zX9gY*D9RlFpxz%@>'[;gq_'a8*e%*tPfaO[(noKcHVg])]U<8V-o+D1'G-VG9W*+*pFpoe;6/?;@)2PyKXMqO4fXu$4Oon8<
 K:=Y59EFe5%V61`g)j#?$%WrDH+#7W=5xy0K[+:lH*$#`>6*4T]z6T1dU)'NLLxTA>C.`581ek'n4E#.Z6OMn66Yai2<GE(I8RR
 6^;[oT2`d@3>^qcoLytc,Y92TtyW01y/xClnz8.8r9q*%;.4y9QE]s5q-9Pi1N5lybT;S@'fQyn%6XH(2>z>V5G$HfCL]Eu;mi;
 hl[y.ut?Vl9b:oz/ncr;g_lIKAv$'h]*j__#ISW;77fmh:/R:D-Y2,jN/hYF`q:C7:%f2@RMK?LW8jZ^8HQ9hENn#%gDZ%q.3z`
 YE:shSn_a+0&:gR''9Nan_ZEP:TtW;*zuS2EjP_0;8KaG(QXeml+UB0q%>bLP6RU$,Xht/)EBQEUd8ldm8`nm,)xQl.P,ED9_vp
 ]ljDTX;=uP.;`A]gFQ?N`)#axt2ftP[=>aUD:Y8)>yv9C4_M?fz;S'75bkTm)Xm#KY)X7yGamoAitlHY$fjXrEv]`YT+NpbC9>(
 I1`-b8d0Qdcx%*1q1e2;)Hp_-v%R?Q42xV)K/#%`>;pdUNQ2%`ycqo0ybZnaN1X:xb>IP/R9*IF1%SDd2Y#X^@5M9+O9K/a@B^y
 T9bICN/a7C)X/Ew>mMGK'bO$x_M?0Y3jNNYM%D3JJui;uy'4U6`7L#PI>qmkCIANy%$)QGfGS&YXF`tD*duNrEL`)*Zz4Q'OUZI
 bs[A>L:Dhf[;pS.wyk.'FPM`t>6q;#Ll,8hJ0T)&tSnH`&q7xDo_vi8>6H2W'JB5msc4n;#F.nKVBktJt_.fx>Ly?bnJ+ZznQo5
 3CFS1q8wP_=J&ko6(ulenVMYCWb+=(:)@<;xF4d+Y1nEQ1nuR?b[CXj8rJX`lL#_z^gg6:WZ8'E.0F$46>:K-R/xNTx(Q39yw;J
 z,a@MQ3?1qx,p7IX^]Ri]bKP_r6)u1e$66]@fv/3V'pXTS[Y:y@pa'`jd5m],_<;FX=p1zGF;D=@].L>25=&72jv*NV&3>NM.c*
 ]lw^NuSlY/a;,^Jj[1L%w,lZ+Pkxz(?kOp_jntQyB;PiAi)f`fBPX]7B.zfYE0_B^mi=Zf1]$8Xh<[.]J>Am5uU/1py/L$Da'mi
 'b9g;x7l1cXdw:C]MWPtqXV[c*b$(?G%y]zV[K]9]`:F#8eW(/<,;PV3z%Q5Kz7S9'?:k&VP.4pG2SK6r>6&_4Km@bb0BowD5sI
 O(8smZ0Qfjbaze$H,(sf#do&Npy:9KseKhdO]mYR'gh>(I98+EkOLoA6('/gi[JCB/)xUM-vK6h.v;[.#>n3wzZi>rwos6_S7+U
 #(iGxO)0AR0UQTXDWR0s<R>.J>uhU/B%N@5P?d>.[[us^9L.-Ik.eMD75@.pU<b,([3vJfXo^xHl/S4uJ4_EP?/F%.IAjIlv]-8
 kZ,(-h55vD?ae<Gq/D#m/U&ce8mR:^Q]6Qr'^D;WpwEXx8-._Uw+E:.k%:E:;ui):.2LYd#&#$Tf2+43y25Jf9wz42J?LfR0wf8
 yTeM&Hf*G3Po$nB0<[,fUdEQiu)oMF]Y9I)G=>*2gF]%*z2+zRc_j>1w7/RV61Jk^%IZ@Or6MKL:1Q/>8HBpNP),`j(iAZtlQ2j
 z_8`:q%HV9cq[UnnVIMRkjsVUu[;doww?`9-(tT@zm;=-d.-PY@fyKu$49.QQRd2v<eZCewOSb4SK]c0k^Cl3Q',L8OzWQVUe#9
 `iw@,c+]mn>,M@<q.Ar[DqE.=O24izvq-2&M0WS)j_>gPKyA(vik/s'k(:m_L'@,NZI/^0NAZB/YAzsiz;7=mj>.s`/uKs4.$p%
 U6+bN>AzVG9D]0In-&7s_yC,'H,b94&VX],m9(F^A6R%UHBB;<du_.mvxe,(;$qTUpPUOnAcTh@YJjIg$#]&bPLSRX3GuDT)#iB
 6<A:CnA&&``33AIn1l@8mq0N+6L1JLtE*=D:/dXebY'CcF(Q^`D%lm[[LE);=DZT(uPa3ysjTpQ0IHbs$XTz&Q]?Pov^6@Z=7ez
 :4SP31w=EUnkpLz0E,M`Ps`te&:we],sY$(C*Fzo>xeExYrBF$VwL<#tp<Kr*/9v]6)7>vXvW++M@`8M$GBsv)'tO9s;sxAEVXp
 s9QTdCJd[dVldzt2Ebp+T_Az]RdfUV2j*GIC+xv0bk?PNwsB?nF$vtiaP'a,4*n%;@dtXepKx$OQC7YG1xKnZcdoUsd`J?&*&p#
 uwV>ZR5/f_Q;dnFuI7(jul#NSdS[KQ3yR'BOO/piL]d($l#mZ#?@A<JIIOG%pU])g^A%6j@z%ttkf=OAK^^w<]j.N?sa3L+X,Wr
 'eGFLRsYGWyJOshf/@gfUuctUy%n8-]y+z[;(XK96w&FMw?/>=&_NKg1ecZW0HPSe$&:n_ZMsum,LLK;EV?gYaD/Dm.)J/w>U.[
 YL-[Qt5`_P]z%[UwO'x'7gRXClHS^ZNuV)6Em`L[J.OHyHc&(@>O96-Ryp[p4=HBVL*w]QIsEcGl1i.=tdl4of$.Y&eNXX;KPpA
 8E,e0#t#;AxALlS=^9XdWWsx<I4L=xml[^/)`uiQ<^S0W`8@b-:s5s_sTut6n[`TM]?S+>'*aI3O`Yr(72Ks.OWT]h0;0omiiQ*
 ?,wOHr,L)d5_XzgS=4kaDGysl^i@rD-j,M`F19Yvtf(2Q#.^U.tDD+lwQ-7yGfUcXt;#Hn%g5J7.PT0DCUXfVUAbOmIyIyg,Ge8
 `/+040^_=qO*kH68'FJQ<CQ#eZ?S78J+O;b_LE0?aP[U37r@a'%K=LEfyR@Qs>9?c5s>X%+h[(')MtN:X1nMkfNylN+V9ue3XRf
 RiT$iii/CVJ=^qqfaP@k=9-CO?FSh2Vs]a=7ryaqIl$K0fHe8lll>OfcZs>aNbCg1j:>u_2Nrm]bC;DWO9aklF6(,:X4+?h8V]d
 f,egI0-s;c6@<#'%umKWJB4'gK4,IF/G&8,3Mn]nw08clZj]nmqA+59KwFPLN]OR55*KLTd4^rEiLBqGFr=]TpoYTb7HjcT[=xq
 3F,Wm6zKy2G[txHR?%SR)rzbH[Ed1%di`]hC++L0Kfu'o=R;tdFwHP9UA5&]f2.ah'7E])F5daTvahJLUPe#(x.ZL8WX_1?1NH:
 lf.du*Qvx7GG*yl,u<79wukShNyLG;f0e]8rL,2JK*v8(3.^KG'f.E195hZ@r(f<xd;Lg%L^z[kcXDqm]DgO`YxV#R0j+oi[Ide
 +sT28/?`mi2^t^P*m,mdstM%7Oq6]UN_:cW_*W7qrs3>HCAB_p%3:q^B6#>to7+dxG&77Z/X,_TbteITxPo^WrZ^11kO(5T`?Y0
 j>e,hPthONpomo_I(w+fHB_8+r4)t=@5^SKjr;V'_QhO#skfIn.*wa[OGA]xvx<_0*sx3^yu6Iah?*Q9M2Lx_w?qH/@$)a#$m_&
 XUUSpa%u]ius(Kk6CUVO4o%=8`QlEN'a'zfG1UYz@V)BuZGuaBA_nkz4q,ahl'PMYF=gs)UN9gRj1F]@7=)*]-Db-N0Psnc615B
 (YjbHk*Y]w9/M%`vr@A,D'R'2-J<;`NKt1)/5pu]80PcMefhTm=WEkdlGbWQQ)$<C?^]JNvL^g3,6uPo77aJ7u:xC^1`g=ZRtK9
 >9FCOH,fNseSL8]@BJRW9eO)phDzlP+K)V_L'hSE2H]K%X+qU-e/<=DH4TYv#sb%CD4d%&oMH?ssZ*<4-gl#G6H]<bcjj#mwl#_
 oq`9F.,/]z7nPvI,/fy]<=$NAa#8-M]i,RGFf)qf5+31BGTpRN@uhDPl*J7$:/*K>>Gow%xxJm/'oNk1le@nIwP;kof2d:u,WP=
 hG'=g`tip(S4?^<^ctVoGUZ$dp]6GTE;j$s_$-l1t[UEh>0ETw4F,FS[=F'v9GfzqH_?><frRGw$z52aT0,H8G:G(No3C^C@t;V
 >btG.0,)%5Ct*1xr<u,P4,cqACSQb(lILP+2h9o,16]t)8vpy.)K1e-8r^2<nqhTuXF&rf8yTR0CA%K`?n<ApG#e'_eZF<R/SS)
 E6f*@k-.bd>=;sHE;REfK'OSi-G0b'ozR'EXn681N6^_U`4Nd%*(GoIh4`x*/EDAS[6Ba+[oc3a21W#.*Zkk/_s=R?A2U^@^)y;
 2rScIi4%DyaPl]8pWw^H<<8gocgQut_@*_(L1YODH`aDAv.5X=OCLOW?T939)Sxt$o[Jwn:ryjC*z9/h;d2>8Kg3u:$[9O=S%gW
 hD;BwVIQ6fBc8e%--[6N?e=fm+O6*x$_OS):k1=+#S7jX,>hpaQ41`f.`Mk:V(moyMrlg>XyX&wz1yh-QO7Wrs1v_r8C<cdXcGF
 9HhBx8d&71V[=W#*)nl'xUx'8f?`Z0ID7AV8cO1YfI1)?./Udn('_C-j40JI*dBWFT^WpFpmW,&WqDgp?,W_FbK-I4#hXq:zdVS
 6>@=(:R4nsXu%<S8dcJe:`YRnvPeH2,h*V)ZFRt0*VY_I'-rBT%<>d2mYS7Y__mz]@6@r>UaLR]UW0:%aFqU@E&m0.^Jz.yj,%D
 <,b+0H0@2[;G5*kSIDvz^&_5sPaYTql@>$KUe^z[iA76HEZfK^TW1i2,&PzJ*CN-tnaT:[flqwvL:nE>`RWpsBy/>ux5AH<&a5:
 ho:P='fV?VXRVNq#:sxR$I[jeS+S:iF-:ue['9C2]ZeElEUZ^cH_frcm&;5.PS2&CpsE?=do$o?x2Vt211.WkB[IV+06+n_(6qI
 ^oc'GOnQWLQ07G`rp/&>@.&1+SBbc=<@EZaa@&')s.A/RRXaAT:&JjWzY)1_*VOeNHTGw/_xxiiBhm@Cr_n=^UEY)brA(bmCz^3
 FDzxn&+GKP^XfFqdDMTW3U$HU$ZmcWe8Wbn9W>L?:Do`+y,P41VD>]F2.1#HKLFY?.`9VFS'A)P@]+Qj%fEtr(rq2)vLv^CR)4]
 `_L`^2+M:Lc9Wmrkki2M*RVZ<=>q<k%EGbsugTsiJ&[Q-,ye/IW]J_g6Qu8NTabu815ZI(JolS;`-Vm=_*s=tl15)2yO=h%<3:*
 v1.FV.m8B93dydg9)frRun)hCd%)Z<y*ex:NnX%+hH#]B@@Lg=LAVXo#BWI]Io5sH(P(7e-G/[7:RmOFLE3mjNBAcoW]8p0mB6^
 _>7)U`^?9QgJ$MY9IL,AAPPC3@8]Rc_(xpUjuk-b37tLRQ)dSPWZ0j*zow#'bfOyzc3c3<AH.8WSm`uxub8Mc=3;QN%Q#wvYt.;
 #edFNq>VMKJnCH@'[8GDDliuA'[RBm4dmMuN+;U4YqK7[L9#2$AlDb6bwf24M7H9^E&cG1Iagy.fOtKFj=3+*:VVM+w^iPOHY>I
 =t7^&hmY9?,Dov[GW79kIRlOX0p$r#_0,7#x1)Rw6<_^88K1rvL+V#EXbOT24L(bRBd>o/w_+RMo$gTa#W#YY71JN<nkeiZ1Xo5
 tvw)NQEB&7TxYB>EKC:n6toPn,yc`Usa=fy]ki`umb6Q[rTkU.&lOu)vs6y9QUfAVm957WNO$%yd3s7K80OGz$l1ixB=84)O*3t
 oS)Ol[/+^x$fR]%`i.uKuE/_WimP(PA+cDDpdzCzC&K]LEr+lh`*fMwR$=T[FPt.yf=R)`dBG<qs%,ni&^@]X5NT]Z<sZ1f%`5u
 w*vn`7gZ+Y4mTf=Q1_e2WMqh;'h5mW'D$?JTxlw(dVw=4bsDcvmQ7kA*eHA(>GM9qcnXH9R:*n^ko%pD%Drq9myj6v_3,.z=c:L
 ci'#^]HC>_toGrsS*HTMZDozX%SX[qKnxEtCaX0yc^lD(XIo&G'8s5Ryo/_j0$,gig`$E9gV-pq3:fNc?Bk'8qyBAziW<%`[lFf
 J:UgUzktCQ1OV<[[qVB=GWjDQss^2ogHqD&$pFTgo)uXE0#M2lt*C*WkU=UNEQf+8/e?:];NiqZ:e.;zdIRrVW+Wef(C=Bm#ak,
 J;)@G9`:2CyHUkIP5B?L5Cv^,o1o8Mm2SMkSVFr=CY6(a<syP,7n21XfNtG?m+?SFO0?)QKu2,ov;dh<E*xO+HD(r4#:xgGs:Jb
 BY4f7NC2=b9IKfhRZ9;kUT3lJU,ebY1%:U0`/U'c,Z1vy:&,l'Q@>B`e&`O_WyhB5jJ6rGV_VEPt+/h2^e5KhM2G&ovx=Saok^4
 Z-cq*o?)`ZEX>*kA*@5sY#o8_.EN1Kv1N0k^k?>ux@p9BWcnETV^FK;*3C]1:G9,WB0<61K2x<YH@Q,]l$?,KNVggPB.UR7U4XJ
 +L<LgcRI3Keq-RUu3;y6k`hR*U6%@IA^bQP]C,^Q[v_2)/n^=DM+@E22s`Vl)hF`8uR[SS=/UAPlT.o3<;QhuwveGy'so$1-]T8
 g%Q@:9AJw.]i]p5^F$vvA>wKWDy3K&Yssd97+CES(92Aq5R`r=v/mc1ev&gd)0WtJ=l&^b)43`/(Q.up^b+SVpecvWkpPgXy<YH
 ]-_;jGwZ1e8k+ufgo1;i+S-ekHh%';A,]hPELivWA4yYpzYhc7Fe`%Jm2`l<m-UM/p^_`AtEMKvyTH=K0sN*OWTdBY4x7M5z;'n
 sBW+JC7&F:'Hp@wzL?3BQt1.K?W][:67Y-YCqIXfbL+]3x/EUpl<`.l%5dFMI.E%8tkAw%9sS=CXXW:O?`XHs>68LH`_Id65@pe
 RT0:v$7OB;4[^aVMOCk77*7@@`WdB]jfUiNz`kQzp1;tthPs*lzs'G))a]4A3rJxetFpOvwbfJl<1,M/$sp/k,z[pC%eRG#GD6^
 ybKi3t'U1iUdW_qS3AVD^L`6)_;))hu].k3ijfcc6sl7fK#Cv_-8>kP6/Mm@^[E1]83IR`_f4.p;y`H4nq?>jK%Q11PEXS&Qfzs
 VX1Fel'S_;*(eE;Eog<r0'fXM`Jdk2Cg`J/&5<sS<b>S10ZeB3yU^%FIWkO/(S[MAWevHq1MJPghkhcBQCixBKkbXYd8-pYwTHv
 <Jq[c_gBUB96QG;<;`p(BmSqN:Fbo]t6k6,yD)uO;Zk-P[;WinTnk'Z%*i?2dkgm*gXwCGw<jN#T/$9KL,L3iuMy%TEGG^`S3VQ
 A<-dh*mfidsH]0aY[#U%A^Hi(#$`%yfTp1bkNH8a7/V+d?DzJ4f_schX3wz$NZHRCi-kUC^1C*mxDI:0E2P=<u@Nxc6OIO$fGt=
 ?f6`%jvJy)O&bA`Vz2A.'8(A%Z_xN`+;FW=:Y/rxAAK:D-k5w$E]HiSA]9Q53Wub(&1'$0yN`g$2y.$)Ml9BSY.VF6Z52iQE=6I
 $*V>]+&+#XkrQ6E3Wd1oxF+5Dv]s'P0hG6MJT;3m>iDp1JPz5,F(Yo74O`)DhA0XoDKay<,%y-o1x'm54ftEwPA3Hl`b/_(4*?(
 .Iq5JkFw?hMAukA9pllY:lMkOH5>$3B9;xo3-=@DDZ+#TaZ1N%rz>`uMbc=Sv/-Km6R&w[M8?q`3Et%YBHE54[u4zyCL[%?l9DL
 h'esLQ:R,e?H@?Xe2T9gbS&2(KwmviYbyBJD:-Nf2iYd?dhIDrywHbPK7e*Ms199F=p5YB;[;5>(:*1Gy=$TGV,)Y0&v+5z4irj
 R/>S^<Cn6-&Sa4l[<Z)4+oI^:*=IxRnXZQw`4`$[t%:GBW2IkXg'J+ZWuPHiG3#O]2nSx/BJ5#Ox8w@qi;UFBm#p+VPV-^JwKB5
 09%FfZq?d=l6/:E<]-kp-WJ^M,3+qrZb;`k-33`_`IK+/fV#AZx^[,Es8<7j?XBSOY8[F]kSZHBfUS^ResI@`C24BQZ3v%8Q?Yq
 9*BeBdKSSZ8RT)$UFo><F@cdsExG:JgH'9@?b>F4St[OIqFj%4QHHzya)&myBQZrc)MG-hw0:`Qvj[IGH[+iKUC+EJ;TT$8faT=
 .F#[EnD_%>/v-Og^Iaj6:nT%`q>R4>^Egw<J]x)UsRM6hH]ZE_JME)+hJ9_Vi#?/b1^vMa%jk`cj8/RY:VFN`z9;9s>pgi$9x^i
 x9v>_qqvAbU6(xTXdOQOkl,a<3T]tEHnvBfyHG>#gX*$0[c?tv1/]*0FAAYwCJw=-J#=S0ozc#LdS#zLU#S9r#pdoO(ES<iT$9b
 GpiZuboF*I@[Q+4,8CKxK;T@L;>RM=eoK$^^sYNz@JbyBqcd[U7*0K,_^ugV&cv..Ew_qoy8=eC#KOQ^_U.WAPW@'6TXLoW+ZqM
 R0;%&rp;qq1_]C,Bc)PGTR&b[oSulNPi'#I::T8ps#`13b-f1IC:C$v4h5qs1QX0aC&K)Ffa.]kd/50TCEBnB-):(&*txfns]2.
 w//+)Rp%t]V)$KJ*o/OY:%48j2aX__HT?p4KVQM<C%,46Pr0dQK6o=)*%-a$=:$CBuaCalKCHXUrE5`v<O#DLenBbyKAMW)HQV:
 03HV*Kv,ZT56B^FHsfZ6y#pr=krv@^^FPb3`<vlQQEsO(F'TvS.mAy^wAcZE[^10[hCFDQ&ezFT#RJ;:>`d#/[f$WSq6;zi4#TW
 T,n9wSFEGjyAu[#6M@O+,%0wl^h;&DlZ&+T6;Vgjytg3:RI_6TrUddw_sBt'x.zxK]uMh?fd0$D)gofkOxl$`Jp@x87KJe.&U<]
 MaT5)1pp:Gf2Nq4B?&3Te7W6qeSRs/Cwxf-;jc[IC@KHNL8w_S]yEnyF'Qr785v.]Fy_kt,YzX@F$k()#0O':?QoCo9:hm'.$g&
 $$ogs86UnNl:FB#3S=q=F=(e/j.Q3G(7_^45WYdoLlu0G2p[+DwUWT;T1ZE/zFklz@F?@As@;F-l=y(uo7ydsX7$#^Uprlg&y9[
 K>oaD0[,OBB;b3y;r)$@:w`<%UZqeFWIorq7`F<D@Kbh9*JVomU&5S9FJ4p*Z.jm>?E`+KZm2B2WAjzTeL8FbATOdI6Q^O.(+:T
 U[X>@olzDj&`g[OJtwtGD%0K3t0yn)>j%l'%A/nvdXk,QNVmaHpar<i#c>']#h`$g)Qf^E%y^G-c9F,229PX1F>*oOc+t$a090S
 vVCZ]X<y(y=/-_$RjUT1BM28^)dK@_dR-dvjgL-:07>jM&J?VW8qDByjIRiay;UefyOoZ8i`oDx+dG0OI$)',@nd+fcF/xir3z)
 R(E&KrYqzSr+l]DNq8CmRB;P^hRito,B=r$P#F>W18l/jIe'@0XS9:p7N,;ajbspfhVhue_$MWi';.szp7IkFesiFyjB/1AJvDb
 8f#uGI4i#DuOhfFWqD?Y&]:jf,jn=m9CLADC2Ew46Txb(Qj.>T'J(]m5ahmJtv'9gh7#GiB#MN1O./O`3Ie##BO-t3X]/?vA1Vc
 (MPLUxOP3cg>$0>zB3fm`.p(yBo:yF^n'y=/M%AU:_]2(oY9cy2I96kG1&HkYL)Pfl1#]eTPvUd)%6ol)xq<64<GJ5t3FDv/b21
 fI$[;8?2_7^q:x9J#gn6pTsyb@40IU:IE[=$1ES0dUOMQ^T5%j:qGdNJIxTS4jb[ub5RU$P?BdQmQ@/$)91?YZsT4%I'95Ito'd
 8Lg@GoH#SVb?XNn0-X=k:cW;Bc.1WB9PKNycg2kP%25OZFi#f?m@W4qH[][x.L9jt+u2x&$n@>7zC9lm0ekC$k2n2`Vd0Z^/o-^
 nV%UhIU3&`*&k]HX,NL$$#/Zoln'?C:FtVsC#B:90x(,7@Yym&wqmf>DvyiRgK`xAZSjeozeeNA.G_W98&AD^_T<Np_@nUIQ2`G
 ;6R1i$.zNOnQ;@^FNMy=(#U7;l'C;9jS&Uw,e<tz*7#;dTETZDZx01;NU/5ZR<KqY]],Jl;Uv;k3Xf:p?0h,*rvU/'@O^AF=Fu'
 /LJZ0tEpJ@5`e?+hj/s4d[].Kr?RUE@q)up)1%yP_;x<PY5>D^q*NaJt7]o#/)/WU[^_K3SI3r3O(<Joe9e@]Bgqj#Fd_IXt^$<
 =R8W'X^<X^vJzI=DM?pR@xrl)^m5.]ElAnUPO-h$uni25NXJcRL^M7O-p+cnCC-7VeRoFVl)#B?v&a1mBD?AR5hQQ>Q,m?+GcdR
 JE>D@gl6]U1Pe^G$kTn#:8Tww8U=9_ED/G(*G.$pQz4G>j/F3?HsA3Z673Cdk?9N#.v)`Bzd*_nJQlbGjz_oPmOp4PYf$wC<*L8
 ozgsEq$a`l`alRVwj0^u*V[@D(w(;nBHH;f[2z:E12UN^=R=BFlCmfTq%OaGQpNtf0X)P3vG=u5t_+ug($ezqfXc+m/Z+GWZ3MZ
 ,6EriNO6*ZrQk4GyI;Yg=nj388lRk$jNM34By*wNM]z<twk0XKv03Z))W`/I7o[o4t9[71_Oje8.U0qt_t<e:Gs%jfw2^<6b5<P
 xr*8g9vAR=Bo'GNuXHn'=nA-(Snen4H=Qj>M&u.=3-=')/P[+D0[^AMYTsjXRew_;^Cy8sOZri(=v<e&)>Uw$%QS;V_jbe2mV?Q
 V9+Qs2HS=`ar@(RMYWb1y1KWvG7[UFSZqh6yPQ8e[;#m=9'jPN-q#c]1G;dZ<zRz;%8PA.qoBs]F?A'_J8Qv6l)2CEjbq/+LSiH
 y=UIQTR;FA'n2g=nh7)sqY*:9+29fmXB*9Ha0Yg#o1eH/(0N96LHLTy$%s')x&aYIu^];dc&*`Yci$kc7m9>u--ZFjl^10+n1f,
 MP#2J+)h+0<[>Qoz:w-?l))*KBx($8B1Y2C<rejRVF3HwaLzDg=on/a4w;tabXewM$?+JkoR/u$$-]i=*plp:QErdkTF(fLr-;-
 N9wN;^HPuPis&MLN;]QZ.e9N^HsyHbl.0AzRBVYei5ppso6a0)[5D0wu6pFZAt(kelVYtY4gsjQzt$*.['HbN'ud5??VySNw?ix
 g)q=w#uzoEuqnv'6natCKHQnq-$umn?brsy:#&tk5AWNir6mh]Mf;uWD/u-]<ZMB-:2Y2;))WJ:(&W(ks?Az(f;$WX#30fI(*9d
 >Ja7]Ku5@$Tu]I]Am^ivM,M>SW/a04fu:VtDTbt7m?%4UByRB5Z8_Di;MP;fUmrVSezjtv[i1mEru/UG5kly<UvOte2]nVMZJw3
 Pxo@x[$td=/](Z72?Yn$R'Tzt1:&Y+-bHNT9pl.C_$.JaR#34UGVe8`5d9nC;lTpzc%[+o>IT3XOxLY>^'-L3Hxftn>P:]uM+Oy
 9P9QK*2<3)3m+/E,'J[txX6&+?NGNkVMxA9E$z6qxTd8fDokf766fAzyD3Y28^Vz2Vyf%)-lpp+w?sCwpE6tl$m#Qa,old5i/r6
 mywo%S%`$3zIuV3&=qD>XHDUa[^)_YoMNx%so0XbF8=e0_<H%N+:'hk6nOm$IhQ_B*-QX#y%^i`d<WB]:iOY.)&yD?[PCLP@t*$
 -zf@8;:<R5r5M(on`3>(akHo9-R%b[4MiovXn,Z<i##<axfu8-nUberL&_0HI$W[K(jjS:wnMFV/fE[q0<8@cjQM><]NMgroJq;
 Vlg9dZ0)-FcUCVcsaZ*s,<f,-d^9'fZ,[`0P7TmZD'R@;EBHAtZ_#I^W:l43#X))_C-#?9AZjYUc$3=^aj8cmcmQV'`U.-J.0(Q
 FI8Odq'2LaC08'bqRRl+:FFKa1E?6symt_g^IeV[o+k4b/pp$oVF`2x@w$a<6O:W8Yh7Z:JK3yB:@6.g,3/.]:G0:Ghg4&d%zJm
 `lycp2z;SaxsJ7+?TC8k<=.xR&VXQ1-D<tAJEAUEYbr3S.q*2VQlr]4pUkNtVlMeuGa;Q<f_Jgvb%K'y=-Af$_Y;Bfe[(h3.Tu>
 X*I'Tt<aAqG>))X(Hl/F;?0k^hXrShcN(K%,Ri@Ak%80VBw+rSL#nFF9WW*Eu6O0[lGnu-5P_TA>Dcco)c3vv^k(96m]1#0(5W=
 1`g+%,ByEa3.6Nb:>B)u*@4k.c#$PBH2qU5vMCw'&0w839k.zSG7Mw5&D[x9n?cohBlc7a*1uM>ovP.Hc(Kl=)E8=)IdlF1*[Ht
 Ani<V'L-0>r]W>8Jg7sl&[mHEi<zw;9aDULk?u.0fmCz+[Ylnw$H$5^b9+iiR$I8WSj`74+MkeV^>CqK'DHOc2-[@'x_F*iAWbP
 Zmr;5K8XO,?:]D1C@n$w^h$;aYgV>_Fk7<IrYmrlVNY?==B59wJl#Kps=vZzxiceRvD)=d=b,$,k^_rA>K`h8iQJapsMcCmq6Kp
 4TLWMbk=<]':RW'Gtr=/glMToS7-g?Z(F+AZ6NUMenwg;*Qp-0k;k)07`BUG,Kw]t_^yR*T=HiHvKl(5kMxKqsxYT9K&F6i]-X1
 TqA3d)4E?$OPZ]C7Wz@1XXpom<a&Gm_KC&w5oQV`l#&k/FM+l1il4lf:&FFCT[J'xF@wkHM;l>.Lu]xC?-KOs[:Hv9'%m69M<*Z
 ALM=i)>Queo=R>TA+q).JH+EZ`hVx(/lNA9i$Ap*0wKu>p0)PXy:Rn<0V+/%fZH6=U&6]0f]].@Nwy^sC4'RE)_2F4M5zHlagG2
 *IA?l]v8c2jb,U.$_y;suh<5$f3CDYE<q$3:D>B/$TY;GwU=6?<DLFR9Oa+R5:S(;Sg<P)j#)tijhe3z*rfnR(Ah=[0[y*3j`uU
 zt-WZE8bnjdR#8Em4h2&GhlB*;TM4Q$9J`sy?V6I^;&w548OY'ZoY/UF3@D,FWtv6`o9,Y,L*Qz^@O03aVAuvMA7UNsFGiAyS<@
 KHSO)z;i=Q31=no9gBW/w4(m_o-7$qw:NQkkU31K=OSRr:9xGB2z.pnm%2yj28?=#e@hCFQ86/RQ#y+oLSX_7TTMxm+n'i_'V^u
 1W,b(N7>WmJHFRrYjvseT:@u6%eiFD_jwkG(H5M/tcU?bmkgA.x2Z]N(Cs09$,.uMh]Mku&We6JJ<X$T0Vp8v]nuAT,jM$qlNlf
 j'+xsfve28)vn<Kln+n%B?Dn_=I9^G6x1aG6p;p93z7Une8n#oNs/Eo3R`uL8$L^:&:p.AKzLJoL:Q[r6NY6z<3=i59q.<+e%++
 4G^=M3K.=l9a_].S*6:6nWT%siwr$[]e+qqLG`2pA0-bfYgW5<M0^6'9S8uX/wrndZIh>2]N4EAyn#kzkZWPfu)hd0y(3G6BSTC
 gB;->mg6=6;=mx*#[y.$M.R<9s:t/vt:ia$WMC?<TVNF'_Oa=3uhfUmfqJ,Sn:czs[aO&sZqT/wR7Fk@Q2'tU2)bKc9&zss@%t3
 :U;j>*pw'5fj6EHSel+YAPR`Jb@i(<31o/x%btP9<MmXS.dtO2fI)7m#^H*g*%r<g-mzef&6amk7;(5vBhCl?#T?DR)zy2R<#iz
 U>-R3^3Bg`&VV@[BM_=oR[Q(F>gLg`f'qg/9:cU`]NNZU;&k9Nc0sn3`oF/PtaU7mRnSmM(qgCSC^o9A-vDP`T5=_,:)jy%/tVo
 rO+.GKy]KGz?9aMyxq?F5hg%;+$460?:s5AW.$b.*Fty=E]E3;RzzNr,yfnjeyt0'X'3UEu#j[op@V1(#Or52OX<$9WLd_h/sGR
 SJDq@Lw_m;@EuVlGK2WPJ,z]RDWAeFIJoAlRso+S@W>1-#n'TDL&`@sl,NyexqdD_sr]3#S0]fRDY+uB$m??y5:r@Wf>y%W#d@H
 Kaw(#/FKy@R>C<>uBWwloZ7p?>9Ln)%CTi2y*2mA%RbcH?tVdc(Z>:/?Hj^6MvcXfhV+dzHvGg'M[Doooaj:qrde4fQ*@+9R5Mv
 KbXOZoM0.Z<w-/l-whhY<41N=2Viq]i0s$W7QwnzC?,o[v#S8wBxP'pT;_NQmpM8*-@?CS8OG3o:'(K8rFqB'v<@g@sCzIRw6QQ
 Ev&4$ujLjyN,D1GR>AttCN>lmJF9xwQv+-QM:D7yeI#x=tc]0n.xJNx7sA+x+8,H:Kb__Gkn.8-.f:Ly22m52p+fo4].RM^B[]F
 nXDfwT_`T:>&tNTBR%efQ>_W[<5oj*3&8Xd4$=K7b,a7NhIv)@gi3&TRpqz?ku7iGS%z7.gi='dgDuJE@_>)iDUy$;Z9I'e153Y
 ,lxh<njLbMT]GVR'(N^Co9Vr`bDf'=ARW'2&4upT)Lb<,7h4dCODt-=4i&&y[jp=t$cv2^;p^U6L+lk&'Cd-H,p74mUi+oQN399
 bfUil+_gt5UowfG]^EUOF5UY?Kw4-y;9rsqo@gf9YhrWMBV*CCsA>AH%w'A.%zy)iId-$gyk0ik3PZK_5[[CM#?B<G)R:#R(w%R
 hA]RGH'c+?<X#fiW#X+Fw)uJyf#*#m`ZEFRq@<,HEnpD$7'Uqh&<PJx1=JSw,-85G9aSBOR]qPwTTW5.7nh4Ug,&Y7tTpXk/fsv
 tQBHCeloZQek;eqw`bvCGeU@4*Oa5fL9x0gHe.kw,YC;0q,#7N/u3273vG[#e,<c2[e;(8P9CE-dSEZfqv880$vyBDX4tfgZW84
 X>.Spz;1(R7ybNAdYInJf)ubEh`&8loZNB?Gi&%1sK_dwG1:J=VT@F42K8imj&QZ5G'7=&;3@UH.Z]R?^BWWwWC07,3WLr8y36J
 bJB^qMp+Ss?czodYRjy4@`VnBDaVC(89ON5y..l=T,d74u4UrS[tk`9OpkpwlMai^Xo+u*XVvGWyelWkAF,I0Gi6,yM*Z%@@f*L
 GG`Kz[ID+G]hD1vgn1VA[&)BCpE3:fayvHl(L9.'>eq8DW0>x0E8m2a%o<19#FfX#K,E$Od9?q`?Rog4[lf&w&dYW+LYU[hp,uH
 W#q+H&Gc=hrV:'o/-K/x&5cVD]($U=GFR/?i%LRBuum>1*)ytRr-Q[HoxpL626Ot8nL'`Nc:)5?H>/6[=UzdPp84a<0qMjG?S`#
 j%2govUL-<$u$#r6<-O;d=B*^4S017q0oa]aA+xF;],;C>`GwxoLUL+>rsZs@J@dYE]nB#Mi`S>v*^_O>z&z[JqTKyK2%<Xk#m9
 qrD*+v>G./,Mftz7/d[(pC)gFxC[&n;zl9068_QkRFc><vJryAeL>RvYjMsDDP91&f,yr;MMXRIJvvWr7,5EO/$MKvgcI%`AuCK
 htZs(2dbBDL=6&agH0tsZl8KwS@t&1cqqsjFPc+rs2up1Gvar8E[W>H`TYRSZ5Nq*4gGVW+^f%=sDqJGOac$wb._f80'w_d&lKY
 >/Cz[:([hGwJAV%l&[T4QJrSeFE_r7EbE]&lxy%qLpkSEYYJ2X4.o>+:TX0)il+1IyDM^_4Bsn1hApx<c&%r;y_c$uUHQ[Plj]j
 lccCb9bgVvJQ6UV@>ZI]@AHa)yP0at)+ReH&+TxLj1VE@dwp]b1.mH6N.w>Ub>m,lZ3lKin&g-c9;*0tDsCGXU(@IckJV([@$V=
 H<xv)0IqkCn$U:-5/7cFT,VhKUihd[2/sb_2IBi._?IFa3A+`o5-W*LDQO#P$Oe,Gb[]ycbmupMxeM1TsgYhsfjb:6Rt`(UOG8)
 ,:t4zL$wLVF[GC1SL?yEe_m]z-0]0E7$z-`i(j?t)([O-v(k6'_TY>ECI.dYT^&Po'E$Lgh9]cK*73MwMqYo=I9Vc[>p-U(r`Ov
 ^Mo>pf8-(ha]uaHKDWD?;35aC2jE:an_&%RM&ak';=&S&N'gFi/J7gG_mp#89LIbVmA5<^UW:kw'Z)Qh4BI=pHWkI:P>x6fm$kE
 ]&'D3W1fAT,,Y;[dl9Zs.AXb1?g4Y4o2OEQyS>.)7:6CzIhz(%DNy0+<6.b1HQnp9]=&CRU]UVmys5k*^.yApD']EQw(.pZ`o:+
 z88X>s#_%$VI/e.fyYyE^'gE44AVznN#Nk_S[)n+a2nCYU5eBby*?4g=h9Mn^kQbFnl'A%Gg)g<p&Z(sJaGEB;?weZh%L(b$W`n
 VS$:d?<IQYb'503>T4qiY9F-Zc+E3n.;kI4^rVS/ZXBf:8NI*A+9;9f8&2Z_sH(pZBN[KQ^?rrX3'=$DPpd1]lzIJ1WwSs$n*L:
 `hdHEtfN6UA)xD:QGHmCK,JMa7d@d/jc^7w4<Eu/Z@?UR-a>j<?g^g@Q$`le2/>NFG'Yb^5h71ma*.r0VdSvf*Nddq-gz[,ZSle
 @(DOBgo)#)puEP9r^nOkm/vg>jR#b*>RTcXh$0L:.BgmO9ysKL@OHRS/.^z]1D>`/0agT(`2OvW8tPqSR^`4cFb/]^E<::iOkgb
 ^B%M;d@wMieqmAF8hfPLHd`)YBU,Wc,&/v[Ni_YT5'o9(JA+mfKze`.D%SyFc@i-4)VykX@4l[wYDV@Fp[wB?T9faTu]6*'kI*J
 J`p<m#Fc(L5@`ebJ-0=gd*T'6d8%bPgW5XSgj0+abJv<G.eS0Z-#:b#-#y$[qgy`<J#+%wGL:FVT3(;DDIT@$$)h;NK-XN'fd4*
 V9-?(hnL;hcghL7THu`fs3xEuO/4qResN=;Qccv5n6Qj2'n*yXmS.)q.F&/QN=dH#`bCB40zUkUSRdMMS%MQn.9;WHeez0E[klb
 .43z.g]R;Pn(zPRb]sj-z.1>U0Fd,ba$?,N0$%#<N,P3sX%xx/,V298moj]lGNxluw2Dmt37*%EV)uEVS1;.A>/+*4PQH(_rZK2
 ]D?I0L(fFGZFRsAMV3Xerq@ULtH^SSVR,&^DGXnZ<Lf4uCd<$)%/R%Tv^YtSU9gm#s9/#D/YQ$pwxlyVJTvdT)w;O0LQLC:b:Vm
 F8aRoY;5zGW'P_UqX__*5m/'[ozx@#.F/C</bf^@ipiS4[(]Y';X%+]Q288%=:w2dC$(]Wb>S9-fBe1HZBIBBW;GFdQNlT7/l;(
 >T)JK:Ab0wY45snKrb.j`eAFXXEaaA6ZUT1gLop7vDG1UfN/J[QxcW,M=JpF*kFbcaU;w01_)G^m@j8L'$*VUD,a;-YP5%8IwXo
 L8.#TqA)=;CR+qCO3^4=Nt9b]/lJ1)xAFQE6sb`y;%(kM_Z])'`I0aI6frAU`h1^tTaZ5Vjm=i=9Vm41c=Z8<9v=h$n]OPgA+s&
 0preJ7aI#^fKr'WB^v#>4RfUu>7>-gKVwO^2u)D?kQiS#pvVJL8.eqHChJ]b>YWhAZnu9zBB5a>bBZN)$f6*9_jRa6QGd]yfdf=
 rWRZ89^f52u*6mof%**A'e[uWrll-OTx:2YF@g&A-b[BCBL4Zok'tZ9I^(9/>low.w,pK]l-Qnjb=^s^8Sg.W#JZ6n25c3<t]#X
 ItOvStTw$-*-+]KLczzisNfl^uw<*JjL2,o4k(34cnTCyiK502H'mEHI$[oOdl_ep#Zf^MHsd%.nd.986*Wv,Xh`;`?x,yf@s=c
 Wd3HO2Ki[62q$FCvbvG1`)X6.kUfg'/3AJV,GtIUk+sFDBmo917N^NE.50U+iOqn9zbndlMe-t%+,Hs'OXLsJ1h%I.,KYmmw%p#
 '<*Qjr6$y3*AD(0o4NJxB<p`ylOi9bgb%]#q8J.B]xjgVI&FN*eD>]l3>C>diYa5qgUKZ.&a8%v2Y-eoIW<cSsm*b*%#E)Q7IP<
 y;Xh/]bMXmmf4Qps7XVdH5NQ=8i58TY1khm*dzcFDvpdFa4)ft@7u=5LZWl7jW+sLuF_0^&u1oo]](?d7xXUb]j2_yi'U;mpl@Z
 >=rEXKa)FVCg^ZjrckI(+(Vg2H)L+?x2'gyziH9(_MJF8TuPC3gp-098$@gPs]q7`N3gkqzK2pQL;(]?K#jRoqeNLL_T(wz79^k
 jYjdyo*7o6tf-Rv_:Hye_)HJ%1ZH'`J_lVQ,,QTwN2h[N$fN0CV#;>[*&u7@#>6$wm_POQeo#'e5HBHHT3PZa4KAlaGg(RQWwT%
 OD0^>=OFzLfSM%/_fZKr+Wb&uD4g+BR?;<VX,P1g9esR)rE=YNu2/sL4P#p%%E4A006$AKe0ocwt>V6i(.S(miu&CAoCCAQj=iv
 ENfQh`V+:si53yX33*T,^S:3x1amU6Ii*8NdfTL-1xIg0R3/PBQAdGAxB$T5DNy-3y8O`kN6FW1s))Kaq3I98<xQS`sl'S->E`3
 44T_<KJ1Lu@XwGR.gEiJGu*RA>-K.xc^l%2iG)^o5W&qiv<F1icHpMb4)U>gpo1)kG5ZHHtkvm:dgG$*z?_>IczYvgq3Uj?fLi^
 @NGG$T<MJLdL%rRIf0,G=(rTee5K2s)C_6H3pPovmz6g@neB$uN]3.2Y;9U$VeRHVxj*&UOhWak*5m/0#cH<IWJn^9Y(&*uy*Xp
 f#iZMOX/qwIk]HF>TBY?(r:WE;tfu-;DGa-(6NJ`Ad#Im9KZjDK9JV$iR.-i#xE_Hf5U(o83'=:xQO+`?'K'#(,,u6IQ^iN+P?>
 _UC$qKVq??<y5^Zg+6CU1&<A^P1ta?LGf0y52R8FI(h>MQM-RujS*_ZV7,5jS<Oki7T9yGn,l=^[mk_aVY(>FH]0HMN.XTTPN3J
 $4q>R7pt]f=S7=TN<v._1&dQm@a/9%rbY$Sj'li)r+tc'_zTH?&8PCAS-vl+^exdezR*r+X/StnBXXtcZg<P=2&e[h=XKN`qEM(
 LC2q#K]$M3gY?3Ux&nbI/BOftH_k,m-Nm^`u5ck/y_):DbP>m.8BFu4/Q,EP-m/CPKRNdB7$o)h:;mzVM&#8RouifYm@=lX#/Rh
 y>z=Q+tn)sKn](syR++'Q$t.:nP=aCx=jg7]kVqq/46RD9[RT[P.S1af;S1TI#wS+di'fm'NysM5CNw,MB6GqV[hq2y=Zhg_vRM
 @/o=B8,o)nJRX/V.cu/.HI>_4;8.8p*g<k+p04UHcqoZ#$qxK=t8+TF^zB4KW).ui4nG,ma.@0aOTmWtg_ZVN$kA4o#jC^-%h_o
 b>LTykM(Lb,sW>$7)wG=ZEH5JK3kMqzc(5:RGQledA0k6mS#fb`i8tS)d1RXKIopBs?xDrlZ]JX_x+G2G2FW&*Mf9m'`Oke9%cn
 ]s[?'J;dl34':58cK,2`dOS^U8>2pk^/mOKT@CCqPy&n:8;C8Cu8ZjI+J;aQVb>]J*MU0mie_YZ>G.o+zGGxG0+LxixQr5$8x]h
 MyU.kk)zCght^JB(hlbLgf,W.aV?UUz1)b5Z+3OmL.ifZ4?ilh6',ZtI#Jo@geLX578A.>_@LoKyZd74?XN)KjLWKKu^rtjYfMZ
 _4UqM,l-5x#2WW-;9rxR&bV?On7ne0FTOst:76TD1`hD).k9rI,sI6],r4@LCXPF'KktW,rl)*hdN[gYtV]50'^MGy)L>r*21ew
 ZcbBl:<<6DyS-ied(c1bJCz)hiRm8tr`]AGt*Vj]RL-Yap7zY;6]J6rdXbl/xv^_epel-oP5K8b#J#NyT3_;*WsBuU(jX?<BD9t
 JW8D+(Mf79FS<96kQt'?X]3y29BpHN_4<DktYZ3ICv:NOuBh.9ZL`zoAuD=$;uwv@6/L@ffmRD@mgs8L3_n=V5wdUc5y87>;</q
 .(9TUVMaBNgBZk:W=D>ta$7[8`n3A(wD2-,&qr<I8Q`w7:#lyZ^.Uy('k-qVT1tF6#9=l[735vNl3#_@7qz(ApGp9sN/owTo_?C
 yo/5iKNil;yE;=cV3@k(C%kxQ8SoAE5T+pEA:xLcrn;&j)*r'?``npYw_P-+DiAf9CSl1-11uZfm1C$'a_;DL5AwGYVd8,j0MPm
 G*gQ/7=(FF;5G)ZH,R*KR28Z?XXSN$rR<0@u-CHaH8[/LCMP`[whphBK=i9y1#,>S.N-n3.;*uv7,jx:_EQ;Dx*&t9Lo)'Yw`=c
 ?j:`r8nOZheANb^MAboM`z;e+_Y)%a_yuL,1P6+9#q8XgtPbU>vir&eR#Ta+aeb0@btV+b+l;m2:f5M_gWvkAVZ)-Y_RX2'2(9E
 Q3IA&W:&hCTqUA8<[$_x9j/u,vsRT6<jcJd8NwD<wtU%0k4[>CKBS.`x[psj1$L_d`YtELRI#:=Fc,i9HBHI;uT?+(UGyEO;M[4
 Ea'LxS@K=]qB;1d.n'z]jKGY%ymsn0qe+%>`+d7o.VJ`Er?myrO2:[>E5''V5A78VeWU/k@gCkG-tYpIhNRogtl]f6i&,B1=F4t
 os@IYiKcwa8Gtpsv&;Aw8z%5gv*s;768&yoef+:DcJ`M5@=z,,Ovts*:1avdhliyVjMk7]x$[b;cMLkAd7Wu;)WBsXOn93zO35n
 Ke4R/Ce^rQA/098[6(Vxn%i;l9VOv7^G9_ZLJ8M)utGIdDXF-el,LCZY5ek-?wze,g$_)U$L3U3Y*M@1J'o-AwHWG3g9cHYTZWs
 u6Qx)4_)_^tEBds0<yBs&u-wR+3%'M'`%/S-ep5;WUZB`G1<4]AH;`gUsgvz4bD]zdk`Kxql%W&T&'*'LZ[iI&@kZS=$'<pyCXj
 yUlq:zmCS.<x2x)v`u*fqXLsaJwN3veSiL0D&:E8FE2NjA?DqCbWc8QgMvEOdz<rQKp]_FWU&'iQ]Zw2Jio'0grD8r4+alh`Q>T
 e_'_*$9>0K0&G'1L8H:@pdIiIl:1RN>o?3-:ivNYW00SW6h''dr+tZ@Ynsfec^/T$q+&/$8d1pWF.zpru8Sp4)hBt/*hIOP]eck
 U#CmKBZ4'g1G#b0_EzNSRVqNA>VmXuO5B84nXrN;3k)-e<o9(8HuLgB>Dgq6g-f<8#wxXdvC):QP]wx)'@v$HR.m?a6;*5]3p'M
 +p'B>tPfZ[AE[,0,&yPqfG*<9n4v>A7>9o]:j6-F].D]IT'aX=E3Z.9T3YM/t^6$/3/@TRZ7TQ:AuMP?PAudPw^J.,>yV(^R8kk
 &S=M9^N3tT*0,mn'5UbjbasTAL[k+TRfP86NQ@H?hp$k3B81$N0F`@8WPY:`VZ5W,Y_z`BEfzs7Rx*_N/wfti@A2vqAka%8o]M/
 Jo>.KmH&H.r?=MN[hz+RRm_&AiT]Ec2.h3#Os+oSNuN``Q@:DA-Usa-<grc.bktyg%)1_F9?^4;v0-N^B'^?(Vo8,ZzXGyR8R]d
 GH57&wRoW?_a4*WvnaJ25ALNXiahCRE>0Ixv?0Fuq8kI=-Lq$RL`#u^u9Ho*aHC&ZO*IgdC%?ln*Q)o3j,7Dsj8%+U*qv#GctB#
 #rEq]IncZM$uHb^k&aG(1u]E]np3+DSs)L.+yv@Vj<>t-p[C9[%It5gLB@=Hv,/wc'I;DShPlrdt;EH9W@x6&G-:P=l]wW&^$F<
 AFo*bOB[@>+Y`o0Z2;@nd[(-Ca;8t?0NN$):bhRy5b^bClEKbPjGu,3_>VQw46JM?OMn+J/*NCE;-7z70Ky[ScC_OR+@V&t:>w)
 +Of(PjS,3IH)kg;*p2r@%D8H<e_kd*h^=z#jGQr=j;E@&b]2_@</)M#l#u#Ca@eaPUf$d]Hv%x0p[xsqA*m5nJwA.Ffsv;7`Ms@
 1D1SU4?VB_wdtGvtFf0m6ov&EgIMp1Z*lJJjaCCgNl6l84^tiH.L#8dp2tz^E%K&*G]:$:Df6).hHKn<qKp^dni05jCXYA1kAI<
 B#0wGIvP%)uGb7d6YsC(9`e4WMBEYEAoH11ryP`>vE'Mzl&VmN9pc&:5ni'Q5ly:B4KL:pis-`U<$xtP6`Y91,`cGKwcp'b<JZ'
 6t#DgLrtPo;-uTy/S]:ffg^KPiz.:DZpHk=D<O.@oLo-qhfLyD+P91fCrK_D4w[%6qamV9Hcc%N7]?IDXd@+*eF)s7)6F(nFj,b
 35lG'T*p6PFeiYJBq9)BUBY0P^KvXXnCQX]'KQP=(OG>3Y(Rl=Eba6aw18`(KrW*5Sg8`5wE,fxqet`qa=bCcLG9wP/uFSMe+wT
 eTw'qxS[G^zk?FSUR<uhc.Ns''MU8'Lz&am%0$<-obIHXv.j(V'mRmidsPWaA5>qpHsJ3_o8@JzIxZRlagsoX_e4=:](Z60:3io
 A%DcOh)fk1'P[iC4Ytbi::])/xtvjs@GmB0:;GwEu0[G$bXEGNXuopms9k,[`[1WbM.B+Ba0*xbY=`LJP+NWE1WeV>>E>KvRor[
 C=iAd):[;4u;Ukg94su^6W^KZ>1t$g6;U'AHA>7z[S^gG#3<&SWgZ=e[Forb/=3*i&1x^Q0%^GCEv^tq5'r+Kt+/TV[bNNr?yU7
 1#+yh_ow&s]Sbf6PKj'l*BMKs<;ky9=EEn12*FE3%fQWT_*>Z%ocZRtc.J.<5l;EHe`t2XaPW>*hyk9*(9PrXjFyS_o/^t71YJl
 e6qkaT`cO0;YXle4,$>&+eL,d=etteTOkiKBVm2U-JCl8Y`gJ=DAz*p*u;/Kg*_XpmAe2GIkiGmG=-En-H`05aa)qMnY^wPlufc
 y3$$:pV2:DV,L_g-^iZ%<$g%N$#AJU]zgp]6_c0h<;9?qZKZg^a^Ox(gs.n*iSW[bZXU;6>)cMJU?`l[71Ur'r$uUXBozPvPDet
 0cHA`moQTzVir5[pQf8-A*nMkaLCN3#<S=A-xXf(O2@n1HnZ]:r##Lj[OsHUiX(#3P6CXB]lXnJO.*.6pFb>OdpKJ)vAiXZ7qzf
 V09i7,%i02&N_KnF?%QPdwugQN?H,W[i,YQ.kKwv[`MOWxtUepdR<f.i1&KoKy]y*YjigR<>'2iZS+iMUulw==Mo&Tv?h+ChKb4
 #@siAB3RWJ-q-0zL5u<>beTKkFNpt&,xrH@NG3zY%RuK(HqvmLB-Fp;*8+#)e4jj*hm5v-D7ofhO;q%qkzsc9=j:F#Lasg1dp>M
 eu:i-SC+j8[CM'w]0fo#S;VP0)PrUSTRjd;I:`2HJOf&$)a`ea:oeibh/fGAu.TT_Eo(5q%n%nu]0If3[a1v;T-:>6ZDnL@rN)<
 _hIFRRjkH@T]tt+a)<.YA`d*/6(f`Pn_*B7=9NEca#Jvx^o'-67=]>Yrr#W6KGU;1[8zHta_vUQCcM(OLV8sB5s1^Rt7`*-6oQ/
 a::7]['l@RV*<4tqGF6IhkuBzNBb1[W-2e3lLHiuwF,DDGK@xDda8bawfFRmd<P%/I?d;r+&c4R22-I_MISqfjrcr'io%W.pQs]
 .2m9GedRFLVf(cEe)+y)AsZE?b'tNNkeZhLo_kU'n^,+%jp/ME/_5+xMt2oYFsyuFsbAR&bzvdoLE9wO3noh7nyv2LA/]cJfEq)
 zqXAzXzA]P5q]#YoZ`Y%ilzd(th7,.4y2sg?qBRtAbh%p0f[JqEI07'Xp,Q4<H)oUkRT-yhyLheTUHuv=,L>tmj,<2&h<S<4IQL
 _7?s/Q&>giaS[*[4TCi/t8W*XJii_*g)F5xRtq3tF[rtz5bGy,;vVwO?NC=sm3/n>cZVnc$A):.jNHruZl@hskna./yD:k)CPV5
 Hi9Z=lVh9J`h`8pmj2?p+vNtZ3LQ1BSU(vGU_'t0ef-9saeEPQ#;Y%?R8K*vxTJ+t>CRyC01`Cfd9lta8Vv2CwFq$09x<4[dM)Y
 ;KX/S=.3BIMT6Qt#Qf<Su:OmYZutUEQB54_6$AEj42W=1r)zl.#R09Djs*cj'c1];7YHFpuAmqba:/4kmv(ki9S3/J>L$=FB*^^
 1A8T:u+J;O7n8ZOx_VJ`2Z[DSRb4jJ%2,&@(-Nf^@Ml/6M?SY/7uS<3lduZF4%9?=xMQ4eBW.en3pASEcy/Z]b_izL3T-K-Ny%A
 jXxPt8^(ebi,,`@K$=fwZOw0eYep1_PY`WF@*.I(rHJOTv@YdNL9RWrOlw2xtlSJc%<$`(Ue[FKdDXU<_S,.FQfzl?PKKke8e4D
 :m2mCtU`]7KO;m8$c:5%UTW&S`A4GME*xo>$V^E_,RxEWC$Rj$%`K%qu^f5UlDYJ?c?ma4cO<ia@knQ&AES:xQ?c[H=Y%L[gL%C
 *8QD5jhjXZpw[p'(v3?Z-C%0mvqD>85oLZ.m(M5Hn)b[^E;VPK4:lGydwqg=?kQ4*#(U5E6H<U0lw3gaE^(fV&kwbZ0AwZD#@xo
 0r7]x#^A?Yv_VPKxaGx%E%@>?L#6]Kd/&=wl#7TFdMwfH9/t(ccz4YfhFHg&MgQ*]['vX*P&@y17z(N]j5/YnTRXg9v#KQWR;3#
 (Ul9:(:6krNJDEDV9-.j_rTS1Xy?`uRWD8,$c(lQ*5:EnLL[x#1UYbXYqFcH<S&3`B:u^=bUJbp,fumVFgzJ;wKk=93X]zLH0k.
 Dnlh#+irGkOqyMT-cTcS_rM'[A%;Y=QLQ21EQ?'6gABPhYe3(8'@`DDt39KpvC=P'n=A><at(r;kQYgj>3[Se+wkw#TNNPA,+WG
 BEn9X_J3]I4'ozJ@x$oM8tZ#:G5lcJ@?E$hq8pwo.Vt)*Ti-muSq1WVTFgz_2Dvj>*F+=Nq/')*k8b.oJ*7&H02mGuu_p6J@.Dj
 br6[x'.FM>B.f^zC2/ekF@2pX[0zO+@6l=WLkO>`]Gk<U<sVM&?K<cq;LnZ9mD^yq;$xziqm8_b'fe@n42j-dn@cYuX,_+fnNmw
 #%lM,4xK4#kvBT1?W5pc-OINS(Csh[,D=qRTKR67d)^<4bB_U6kdTP3w.J2QE/lf0:E`st-i2%`g3Hz5LLt;R+VGY$ir#3iD#f>
 7xyVt=G#&r%8J#*F.NsrI.75oRb:X(cMjk.RE)Q($Tb:EA&Z<]Z3rU.bfYp?Jem/#1+7jF;D1%$4+t6ceS+*eGCETYPoY'Lk3,l
 .>/LUvLIo0lE83PPtUq3*L;G5<6`v/Dls<`WZj<1Pm6v,7V>8?h3n^pX)sb+/l=GLtL6I=-BZk8iKv-fqgV*N6N_:4Do=*$j#(D
 .5M/SGNGe4h@KjB:&u8=z:gIHPot?o79Omn9gKgTMu=m4c*se+ehCIkCPSW*g2I2k[mM#$y;Uqp.Wu9Y;`hGPQ(t4F;x2`A<bj*
 NPtAgwcm(S#v_(`N$@%?:IhQ'FeDDEUnuUA;rP_PPUK4y;%<as``uvbiaPRF_l?1uHPYytmvIZ:VuZvp3ADq0FS`kz%[QcW9).x
 j.vJ#apSH?(2vkF_H+6W4<PRZ8`%,12(UtFj&1:3D#Ncw?56AB_]Cp`YE9ZOD7hPsH)=NQQG33`e7`Lq3c/flau*)h4.VT3K4Ai
 a>04(F040%$&AjJU3T>QB.]4aOm%Uz=i>9mxgsG5^HcEg(K@F^lIc`H%:Tj?;0cpe%CXw'6d1#&kHRfG^].mgK:IhfNHLO=N>%-
 O*N#k1HP>hNa`^[$WzY]?DFVamM-yvn:2<09Y'C72)>sEv+vQK<mTPj8Fdcg9,nr5O+(r5T>8MMK^e_GU3>T.vP7sVNYL;PF(hB
 ;jnh7LG?*zh`Kfs6bzjN`=/Hy-C*7rP[rTk&>qJ(V`>H[_NNwx7GHB8Z_yU/pKfbFtj?g9Jh0a3%%@UzNw0a`-CMd?mL>oz_Qh2
 IVf)E^)YIvo$6G;40_X&_cg]f3=$.X*HMN8Nq/Dt+;T*GDs2zTn5]2ZFGV?Xrb]ZFbj_ch$c>`,iJu7SK:SB$1ZjoQ87qgS[jr&
 jC#m.nVu]Ip*>kkk#spcioYwOSUdpygp[yA0Noh;104<%k&_@*VzV=h'F/8v5<3`r8[cv/@j0PvC,/i#A8P56`EdaA2r_HQ=,uA
 S6@KQ1F%r'qpo4e&]XU.s_*7ej'Q(BAXR=/#2[1Fz6Y-<VD2m8`/=Pe2G8)RJW%VPrLq&/p0^N#YETX,Cm4xU#qMm?bTGlX=Kid
 LrM+>*yPj(N*dRg9v3Qu+B3/F0Ot@XoNXM'7GBY_mBv+Ic9Hoz$6dSm(`dyI;+-$zo2R,mgk<xNm=gV1z#B>=aA=?JSrrfi+P.H
 Z*XfQK,9i(?%,(L6E((M>GiI[20H[1tX+vo]&q#,H),gj2Qd;jPO$vq2VrQ)bC%G4mVYiM7Rc?[Rkv#&pH9gKW_)^tP)R(DsEj4
 m<&ZO89P<zpydS6WK)tkajqe1RIlM7)x<EhvV*HXjMHw2nJBycx*6,l5ToG/hgMY%ou7c2GPFda`^MN^<:OR+&Y/5X'&Xka#lE/
 lkCy6Wwgwb5*9=KN]_HtTrzp3ceThgnNRNt/YC[::QpU1>YQs0(1Qjeuu12D<`K(lpa4(rEz+^UQcx[q1Kq`sOOnkcP#Fx;U4S6
 3zc=_QDHCKaEhth?Mc>Zqv&EUhqJL4r@sg`&9'<&o?^l)zCYC8[43C=X(>MvtH=QhW3vs-Ci:Bydr>[S28HUBiR.Nq68f?cJAjF
 mui3Dbdy#1#&FHx)nk>]P&Io=xzy(:J+)u-`.[W'bvT'oj&18%^W6L_yI_''/[%=g5W-/x1DlTEl#7veuX@U@fNOGt7&m0_/[G^
 5_VZ$_Gvw.]B<INC[8Gfvc=eUxn[^2%K+fzgi4pWKHzPnE;L#',eD.Z7^n>5oTHQQ*do[=SF-]3Xk@5nm<xJF?fDYplJz7o_pJ=
 DR`<,'l<q%.#bJfEoup5?qyEYNvGi_I^Xe(bh00]<y&6n2%^`J$EB@ehz&kRc#qg9Qw,7['#*3'SWdBS`Bx;F;=_<XrCoSa3APL
 B)N>0Ca+o:scsF%1vzY5x@:S8]#TbM-N'B)$KyM&eh2MEO*>wJ2:Ic1jDP.hnkprlz03fY$OapqJ2W=mkeFQ_?&oCgQ+Nl)nLf`
 aM@'GIbNG/hVSdfS+DUr2TIb]O(k.nK#d=`Q?i6n-E+daYK9IiwY_FC^UJ)ESQJPql@t[`I7@4'VJ_RNTW[w:AdM<.*dJ$'XJ9m
 +uHztT9NMkiu&2fm7<FD/W<u*oLz.?#amR&Fl#e>/1ed+NTm;TLjJ7`=Pqh)Csx`RrmdC6>5?tX0J5vjX4<`=_4-('k>[=z`=*<
 /6&C8E-nF['zFGo.sVZiGE,xgTkPN3z;6Q?;E)b3j6x:D_TC]Bi;xm+LGy@8oXj:68nEcsY5lxcSvjsd9f;$<,kq%JXHj9:Nm]h
 p$5qg;y2X56%tfrdw2qd7YSfy.lx63(>vOtH#Ugn>/5Z/9Vxoc`CXz9PN[H+LCcVH%=+UL2YcUQq?:O4Y*o>=ukX=#.w^Yz#TWL
 Poo4qsq_1$G8tK%`N23i*XHn^]/H7xW)</Ufs2W1t#omc1Z2$@bln9c16&PLOWQ*MY<r5lZRA>[bt:4g?XQ=/5,up?R?]ElB.9U
 CE/XzN3+q;.fx^TFUiXVfMaT6j><<^?1e)=M$[`ysVdgu3#Ekea[g5+_sE:eRdrdak#sF,F[HbrRoajUX@[rGnqM1+3KIfC^'0R
 2IX[,J@y-,r8ED:JrX#Q+Z=FV^')PF2((`H/V`9Rp'mNt]0Q6s8d]ZJ19w#htA,01?`Nc,0G@9K8lYte12.GWixp0lO^#;8`TaM
 ?3SN`(w/O<OHCyyo]66=C)%Si^v7;ksQA-hA$`WWd-I<*b<>v$<W<I+3eCxIg]<9^i]a;@jS^r;0y+ccvp#[4:7-3IK8Kzp6U^-
 E&=.2-(U-bCl4i*&HO(eED4GnPv)&0y$1L@&o?x(>a?NbD#9%U$(=uCPPrY%dR7zOBb@EcBLbUke&=SD4,OE;14CPA#Ju;Q>E5+
 KcT^6/V?;]NCBc&c>-pGu+vf[Pu#OlaJ(2CY6V>t_C=(.%Q;:JMx/SD.NR>W8U2Uo[GWcBsuMKYYM=S_0/pN(*9k>Lr0PyV4NKR
 ALdx@=Nz5zhHLf$2T$8ydUA7'#G?<<2Fuzh%e1:)^K]_trKb-@/<+y:s_9yd$kN*xp^b[>_EFQrj0ZsnL^<gLdTEpLI>;Pn09&)
 :,6'YJbLXPE3=Jg:fJ2GnLhspoi-?Vupr1K[:-0Kt9ZLg_h;&b.K=HvCp6)38ecao<E,v9BVw?TbWMmXeW/YU%N;Jd-?v9Tp]ZH
 3V+7;]Wn]86:Q4<*65&@r8o_Gk:W$uhr>K<2)S/z>oAzedMlmsP*(;I0d^sELiD+:iIw_4zI')]8rz@w^$?sIkjCNiwWq06%5g)
 o:8%QbOJ0ccIxUYKDF,.kvCzb,GUpkS9@)4undt+@nGxp0#9&,tSw7i#inHN&KIU;[^Ykzd&))3q]A4*Rl&d^jPu:qE;xf.&iMP
 Ow*3E)jp+b?RIjr;c*-J/Ay^0mF);>UkorlDtRTF*_7_1QE%i;%O3m,)-Z#F_GQy&Y>HWyd,tj3yKPa`3v]V&6d>Oy5KW8KRC30
 [BkmU%fGR8tx?U'Yx2)SF$tbmkTN(4AMQBFrdvuc'83Jl'8m'@(SLv(@XLo?1w;bxo3(>=wisni:s'4bVFz,O$fi?Y5#KCz_)6i
 q$$S/AO%M,)xAoxE-u]P$8''=VD7iJ22oEY/ANE_&-6*)KOe%=yy:^G.o@[z4s7ruhXdWyvGdC)Oc0BndS'X;H83O&4>HK`,qiu
 g@GE_@.oCr#ztuHUnrIy]B5=9Go8R7osmRFDCEL%qNqJ8lWZ;i[1J.3A1HSgA'US3fl,da?>OL7a)z1Z:`hBmw%Xy0bM>lPXg0C
 i[9fAO^[uLmf]46>9;>'r+Cr%-]qq.Nv6'A([aLb@[-B@o)Y3V?3alZ]$m_9%t5*'Z8kQqElk+<0IA$addQoe;Kv9f#Baa+%Ml9
 XOLcKt3>,(Gy=q.k*ul.CEAs3b)DTMv0P[K*AQjT0w7PaHW<PX>,d%i]Lo'iS/gQj4fNYz5q3&o%AF=U%-#xFeKB]hh1<kFzm+W
 1RDiE`Z@5./eaYq.JpBp4h?86lU5_bZ1`Cg/x#Y[r76)[Ov=mTP*cI>.:cEE.VS39@t]HqXm#$/tX^SK^NOP.rV$C6d:wLYtR^A
 C<Hfv=%khn^uI$]'./*C-M2_<CrA)'8)a.7Gpk%[GEK=bZIv?4=wi6XR#t_;x%,xlQPY-pjPA.=byhiJfexE2Q9@o_.tUi`8pbs
 .AT_2.5FEpDzk&';$_06J$Y%8`E#%Xr2%&f;yC50;16,/,9MVsg+*gG_gUJ,2guaZEvql]-<JU-->CCn+R/Kk)C])K@S`ASdcDB
 rnL/npI@lqi0`?O[yfKOC5_Sa=*K2CGm)8l3A:C4>Cf0XS><ki.A`WJS9o:c2_yAQHX3z[z0PYeQ2F34kidyrhej-)zaKd_.s=7
 H(E(?e8Y'$Ew&*;v,jgy#T:$>g$<d$XhGz[4@A,8Xb_&&>t<4P6rhC1BYBC#7vg@Eh::qDdeu]Ie2:rGW0fn)F=35z10VNug*vG
 Aj80_-[Q&dH&2UlVp@lq:HCISar&V-?m]>.G^Ads(F?%DoIryfO)kIRNbd>]k4(pTBx*6)TLLgNYa^$h:7P%I4?<RbLEcrfi8)9
 G4j^R9gSdj657]:s=HV)FDQYs83UXIP4q(+;mv7XTL5`/9@9bU=(ly+9Nd2@Yqr>M<`]m)lBuqx=P''@nPtB^QFZwK_Zs9t8RhV
 fXn#04u0?%q&79v0^GZa[Iijq&8qc=Q+SVg$N>K]?fvY(Csq4UFO5ovZ,=CWcJhli(A%()kjjx7Bd74xr`-K+f[#wvpI'iA57Nk
 w+PTY/p@j+g/F<Mky>qtNcq&o`jQLy<Cj_wc5es1ep#_RbuS>oYyhv)K@#gu/cz0Le?*K@f11o`IwY)cUj6*_5iR*oZ0>JgVxmZ
 dsz:g`1Ca.;G)j[tXg]^g=VRgl4y<D2SH^-9xQ</Eoi$X6HOA`PYA+ENOBRJNP'5TLn[UHBUs1)7<,jhJwM_8UZo+SY3)O/Jc8:
 ELY3VPSNJd_%etvvFAIdcoQz:K7-y8agdS0:&m<#sQDsU&D(TT7,h0i,+0ui4@QhpD[1qE@WX)$^ClP[084pB<qxf<tJn]Oz)ce
 ,a^sX6Izn:G@)?fG9S`Jw@WKe7/^j[WgKK6Q.5^F<@%y?]5rExQ%8Z-x_QZ)Jz[S-GBZkpq_a^xR>'SE`>5:zAejgq(Rk4yf@ss
 l=xex206qFxqiMIj:/'IT9#Ttn7kTvgpo]L:E`@AyLSaF^?J?Ud[]1t..ZEprYe)h[c-$]1DS=&UF=kkTh-[Qlpla)%A@I#<'V/
 ZOWusg/&&=drvfxG4c@<5@(K^#dk/@vXLFdn]AT3_KHfCWimG^012Ktt,kXXM9P$l=pro=bY-l$EK?*J'IZOz%Rqk(z/f3eeO/Y
 -+:eqMM=1*bC'PV*lcUY,&OWV4XQ.rR*<*T5MJ1:>bP[cC*dl*Yy`.K-;AhsC`]`;<v6oO9*w90dHna42Km.'SyQEO#oV0O.UUT
 ;sT$nz`r9GQu%8X<1r=4$sq1]xO>#NakKgzGLG,K1n#(H(g&.>)u'7/S#2y;%o5Xhw&cWvvjo?sotzuO'Y)9zQ#T7M2A%OX#_d4
 B6Ih<]@YZ?[(t2_K$l'+3nF.(9QM8TNT_AkJmV_]%]O[/[`/wj6,E3upRj:XT^LE8q4(Pfm&MEw]32b#[z&&F9hk`P:dPV]%jKw
 jWJLNa>`zmeqZ$>WXJnT,3Ss]AiIe8Wd@Up:/6J:[z=KL5l4LHo,45.n#yT-wu:joRa'cM$_F[IaN(9<6eiUa`]6#Ao]S%8c?CZ
 ?4<97X;SL_f*u&6g0r=y+,]AD5_0mj:Cago1#5zwK`XciJ6MjE5Z8]--H1gtn<YH8xDcohr*TrIHI^armxt&TNNC7^C2.IjN;X4
 iXExsP89m?y9rxKR56=16#*8cAO/bR(vFj9+.zS;:si>PzYY-:SODsm^UKQ5M?eA7<`)g8JcRqBA&,snMr,8cj(;m3x4T`0<:@S
 c-7DTn7pq&5.hT],?@):PIT,dslme*7i?dCo&s/h>+A:2CG'x85;oV-mqn[amxd:;Xj-/GPvM*9<NhCa+'R91n3Rd_CGUu4Hcfh
 KqEbi@v<ki)]de%.FQV<OcBSIGb_<Uc<WpZ*6mBfC%M`SJji@Kzg6r6D&o4^do]0hr'qA`usmk]/o^p2`4vLO%*mkP^--zW<`f$
 hJVZ2e_E?qQ$VnLabt6&Ze;d5CSVsb=paF[s(<cRDUWh2?#ejRx^nUs?j#(sednXl`(,oaEC4-Le6t/KKDq@C`kZ*WDr-*2xGs0
 q*cGTFU1v%w.VVKQ59ykJqDq^KL8rLUUgMp/7pLQ0]:,rE3WRSGBj=3:C@hnxRVZagX+dKp-^aGsrjhYVITe%w9iY<HY_rFCYA>
 X@Vi.l=%gtSUw<oA&Z]2P[L`Btkgq@n%6n3T$2Xxzm`q[7CY$_*GA,:e^M?8P.vNT:;hbi7?)42$cnLO>;1d,.h9/oEoCLKA*>s
 N[I*:s,J$eqq+Yx#*9y'GRAL^Ohrcr/UcQfok/9x]kq*8(Y8T@=GQ/U)kt)>zcU$9M<vwnG5YR0<Uvl^x1tc.IT2:S/pxR^^BLj
 (68Aa:r1Koz?SIi69IhJ3g:(tu4Cu4H9bB(hfYb>vfC)o:2MRzx'2sM0ng+s`2BQDVkTW#1%+b:S25q)4`ZX8-qqT)xWE3bFX>M
 s)`Cr`<j4f]^8cB4OmNFH>cNy;ht<pObf&97?#W*4[)i>/hj3O:V%SAdd/NhG8-4'4:pezk1,N^HdTzKL>R2oC-r4YZc1KZlNFz
 ?a.N1UrBzga*y<PPn%Q#4Y,LI6rS3DW@P:1jQ@K:Z1fun#&.zd)z$30tS]TtTnPA+n.0wOo^j$HX<YHxX%'yq-V4/px>:L67S_T
 +JbFsy3:+=i_n(pq>85YcR4)V8_,k'3/Nd[[6L,FvBNftgqCf(>8Xd]]:-2cUQUr;imf[Npa)'8H:]ItYNcN_PyeSP-$_?=?68g
 <KmyN[gC)0PrMW,PA'4MSgOWLM2t;SsBIjZixttG;LI6Y,:9e5K[A'e5M1JG6=yvX.WA*<t+JBWfE)%S:SiE._[Jg-eBn7,`w?Q
 ^FDFs.0pb?ur7%nJ-)2]m>:]1@^V5>bk4_KMA^;<t3PaX4BzZLs^P2;=W*IHWqHtYXOwxHogj]NP5`FR0@]FMk8e#bgtAu2z_&O
 fd5N,u`a@'(i1o[edr^(t0A(UPa1kXm69)mn]wD6uVTR?'%3.mQ1T'WgHkly6dP<r6Z#-LX3$L8.U)H+:kld(D6Gze^yq)tzo.G
 t/H,+AAmemlhz0bH62Yn86D`5BhR95%&hYU0'u-WiX<D204#LJ*V]Z@JoewcLwbt_,^B^wOa9JfPAfm2.G0IRztcW2+oM>bWR>9
 ,Rhy$l=jT%1:eBScMM:`#66Cm#3BQY,9?eV#sjWHC5L*rGaP4E:BS$L=CI4Wh3q'LdSC:H,Br0ntD9glsfRe>t<?,HS][IjF>lG
 JVU7nuso;E8i-teadd+B_IHQ'6N-X?wNiu#5pL]W@$OfKy<p8jFer4L<*zu7WBo3g@CEi:n0kF?_&'Hd3'+p@1B]o](D@BTj.OG
 Z]B`>v>r._+nV.zs2m>sfDcoWdl#`$.B'eGCt>-P'#HRp8kZVcDU%[cJLv&iL:*6-o*7k;_tn[tjAQ%CKVV>jR]n/L18:I)QCvQ
 &ne5Y`Gf;@qmvrJaHpKt&@e'=,:Fq;wtawk-adnq`YxMMX0cFt'juE+G06Bp]fX_YI4kb+n>tQ0T%tYC]=:&VQ+p3_reP^<K.ze
 CAT<nHZPsYS>aacWzsKR_CPNpezk_;Y=5;]`5o,n+GIn?WDnMY^n$+/#Y07'OYn8N**/$qE2)6KyKBaULD'?HPR@IbZqRyjAB6]
 Rt3q,gIIse>uRL@lOgej$TFQbsCx,RWlTa8Gx(dQx&Y5-NCXj.zlZwmcF_[&+yRQMqOLW`tb'qx4oLDOE(uKgR[.yuxFk6>J%%F
 9GEl2l'a0<IXGIAybTg/GmhpyPLQG%o$RIhY`m]Xy1oQABX/-v&nw)5?mm;yvqFM%i1Gax_ge;47>hAOKOV8zlS+RSo8<sGC/E]
 3Y+tQ+LpQ62?Uy$b,XSynGjfEL]0)o2Tn:nRQx5#NTJbax>OX5Z0TPk7$GiyAX;,^E>hbAXZUbaooWq(mcDm][nOy>Fm0h]&sz8
 e_gugNj-te&2&lia+9XKs0<d@9C)OM-s5_^'JP]eQOH;[$J393vWu:#bMPLq8Be.Gk79qfEt3'Rxm:[?..TflvUO0OhR;/kD#Km
 APGS2At*LCiXU'DO?+e8$tUtj5av2B-B?jF]v/]5Vm0<$hL_qKj,VeO?aDH$$=yFk2rwc,fybR-Bj]#vTXVV[K$fg519lUp>7'+
 =[+@$&l4p;tOI@%i-B2#sSaFd_goMt*-hl$=P*rb+I5S73Z%P<X#7qUfS:?vVD*Tt.T5yWkXCiBG6'#%$gyr1a1lj7nVaT>Ma&n
 ei=`QgF4*]R%d8RCs),ZbYpNF,wiFhLlf_S4b?Wb%UijH026`(?9p@q$VknTJ%H,1:8O^'$A]ol)jwq&Yshc3QQL$5MQ/n]6MGI
 ]&J5na7awP/YHdIC?^;ziwh$A2z(i?Q,%jFjV2FSFL$-S1y%wq^bKyN:R@BMOn3[jl#C;gT'X)]ioI5.NwgcAm#kT@yp+25]jGI
 1[I>Wt<2#Aob1j9ALJt4nr--V&/g4b99.E[(Lxby2IzJi,[rp>Ra/1VQiCd]':x;.%&/e?NAH)4N>gKQ*s/$8.Bl*%'w$W:wHFw
 Dn<az(kHv3[FDfb*op%XB.p%d#%P`GS9K`9C6A9H&qc^%rf?n1]_g=Iz?><ztI>dTyU:-m-0#oJQ$W*<gPZrqp&N3+YWL4I$:4C
 ^y%u^a&:AQ[79s*Xiu#?Y%aR11@-lZiQNI78njg+.G/j2oK_%oyD`e=mh6_IZ4DB;=n%=M/2bN16+]a`pCPxC.0+cohbpc<btA_
 bT^U>6HOT04S81FNxC]t.zYY9hm+oeYRw_b?)153hB.jyH&a$(C;=xY<W&XvX(X(gl6R]kWMP/_nnROt@U3(<(j[DAalrj9JRyu
 l)hDMY$2I8n005La.G+G+Y8?IGvWK/F5KmQwxM*[hk>@Z]lC)yl8TB`ZL?ArS8w9Mx2wc9xBn]zcHdiOdCaEFHEWRzVa>wqZpLp
 EhX24pi0R$A5KoqLb'L0O0`ajsitmE[g]xy@8SG0N4*=Gj>NvAV?<5<R%_NSFFnkhfo^VO%X)APTMlcD?;d^h>+c:Uq8X;t3'@,
 -g^+XWN(SJm93;rzLB+pZ8q-UPYn+<0f)e6RdHtW_LtcAb;iNOUl.1Gj_^S6@jcH?8UDA'R)(6PNVNZ*jt_+`<5/DPE`@o=j$6J
 )L<(:VFKh.r>aXyz[[.ggi+QPV70Cx@Y@&7J1nS8s]Sbdum63`2Tq]n,GI5K5gOl>=]YK-TSTM4djJgA%gERP]NOxS;v[IFqv:*
 UvwJlgyAExfh7'%.Wnl2*lqCH8tt9ZFf2o>Qx=niv=phgmcOpqWQeU_o'LB^Q`NZwkn:t*<h2vc1vYf[L_Q@yWW?k#:vIuNyjY^
 1#)tT5H__eT;7,HrW=Y7$fL8DgWdd^Ak[iixMv)9u1dz-urZnd%u+sR$Z7S'CKTqE8QZb,(wzo>&w?i?3C4kO60n>ZM[TISxTUq
 z8O+Z*$'#IeKJuQ9L:ljv3)L/el?m<IPkZC+*3NUEP?Zqn@#CUc.KS=8o-_qEkB9>'g59NTK<I4[,91-Ye`aVZC.c2:t8>sk%pZ
 VH4OH[3_wTH_pl3A)`7V32;]<MZM2QZ_B%4tN'JX;-QgF&wsf,g'PQA`W5sJUFS+Lf$_kXar$bgMbs-A?Nz[8DXt[&fcDV]<a?b
 CH.g=,541fr.pL$zt]_yWJzJG/K']'YSV,.Z0EerBSh%&TrAl$)hLmme5JniW$6mI>QGBAu]D7wLDOtp;T)I1Qs#/G-;;[zB^>2
 %Z^w;6-CV&2N1o%CCztGM[Qa%F`o9x:GLkufh.X;>A[<M`-gs`I*rVD5082X%<C75gzA=@Dbz;;ibQ2H`y56[tH658agr-N_mLk
 h;$?2fSinU1YV+DE4Hk/Umz>+P#6'<EX3DJPLDu_==9Rpsv+<#fowU:U(]N/fo7g%'I.O+O:T35n6nNhh&h4@wQqi6YhFO.0-2z
 Dfh?b[CIBG3uapMyCoVu2M>O*svX=>T@qJ_bHszmC`]'I'CRSu#%'m:?F=6cAHuV4s(uLe*6pv<ob.o)-o%/Qej)HFrBo7W>J23
 k$Jrj(=xECH^=^tCx)`u2HI<=4Ve,[O5w-&j(D;?D0cf*g%JtKX^_IY]84#-9Us]au$O^dv9*'Q12BA'BArW=aEt28ljlUAGcJX
 gF@kN71o)-K4TaZv.X=Y.M-djVCDF<Pp*0m%/o'zXq<s)*bA83?9V-czdA*$d2.u1x@%EfN`>HpbF_H]/rqmbs[&G4OY],:=hme
 POM.7A$wUd9<xdc[$Zm,SpFk`E5@1=(D)ubxV=$:o(Zn,qux.X3)%J#JNWoho4]UBQp&-]0i#erA6U.7a+aNCvRe%kgbwqkDJR(
 >.Z.O<YdulkLXzEd8L:2i-tqAYwqpU$GTq1gYeKRKqq1)p7_]d`y6C>]kxAq#GlIv.O?]#qawQiJPu&'lQFKzqkEZm.&K&UJCU.
 tbkz?#%D'C2=I4LrT(`@.rEd3J6s]^(*GB0:cr%b-e%prU=C%tpFjTJJl&^+()k,DIt)APPvKG>SU]D%SyHjW(kR'e0R#nc(aUm
 4:Ro6t,nXn`Hk#97Lzc:2uMUxN1MM]=JGpCD1*M9GisXe(,0`rJ,@V792YAH$Xny6p]*+2GODa7f$#(]1A,T#M$B:&zzxr_C#0e
 RiqtF.xb7EVm5vgQcFG*l>DIslJb)q_8A5SDZ`^pj]Ez;`JCf1$8fdb]VI'M*%t`)EnXX@rc5=]V0.1Ny?7r5*?^osm4,u:(lb&
 kGFeW%DQnGE8q%rYV33sK%l@.@)2;/Va)G;HuFa;>0o&>bZj?V&ro/a'[EHb:9Vji?_*lJ+sYSYP%li%vf^Z)us*2&dfefeQjgT
 Rs9EoC4&r[x[C[i0[,yC$O1S?.5oRzjtu/MILxx@f+*i@l%n&Us+eM<R1hu(rv0;Zw2AV,:S2qR_<N-[BdSGoKPGjnbeZq$_?Tq
 3#wZ9>;N__auS[8tQ48wie-@[2+sHD(/rjH/9`P'iEkxKVf96(Ffb7;J.cn.+Bm?bkzex%))XF6bz`-1N5LER40y>:ZG0<E<n%e
 U&(k0[P47:<;a:JLsX>rAtC2SUb]JExW7'LYLYdmGgF_DQlchu6n*6Q;5?h$5=Ckv6#V8d`)yShlv[+'S]2dPVk@K?ZZgI+?'>A
 )^FPQ()8[O[w2*zPE/AyK7KoO%vyFW'4/?qPX;xOERU(<reAY's+70hUzx1<XMG[&o&v9$k(]da5rp?`8ul(lt=HJN$YhuYg_+`
 'GlwJ[qY#iOgixKye#r0)G`1O-lh9O)%KcnGlWR'A/Cr%As(w`_J+t>C/@*)xWBbq/ddua)[.WcV?SSPO)%oUtkq_jE9c@-HO/u
 sh-y%Bh//AeI]Eiu+@R=]$BY>gDOPJCNLmnSM.Cq4yodAMJcWG&6gHaUPkV=.IvC5/YHPz#kkUZLl.?b$::)adJ_YUK<+D4=L`K
 dLg_Z,FbsgE1OGGl=ey=tF<.z($lSV[JgaDbc/eR?^pQJleb^DV,T''Rx?,Bv%v3(A](/<^a0`X]DaxCX^vR[MsKiFSuVF4CDTL
 [UmlzpfoRuH&vo=zt5zg]:dXqPO;?@I]<oZmj]UrU0e0t2VP*x#4sKTpLMXa(b'[KR0HPCmZyw9cJ;%s)k0_*5i-s)8Su7$;4gb
 +BG$fI2R_Igom8s_TC>KGlGwE46L3?byu1PzvR%vG_uEkAP>EbK'-z2=sdN4;kF$qSkB/4+ajRntu(Di,o^Jif[4f&0^92eOf#/
 ^v?T,7EAbJ@'].D,U0Nl+[O,M((EZLs)+Pp?<vriA;KkK)9NAE6G`3?6;8fZV^V`PFD.OP;YC:xk[yxqHSNzR/l@%UK@rLD<EZ?
 49v@Oh<idN/U05_bv;V]C#)4lv>K-RKw)8kgH/GG0`n`7fasN>3FU*3);<U+u<DkU(x<`FPA3x2vEU3,#-tbOsr0dqco.E?q'OB
 4wkg7>1qL7YH6&'<ruLGiCf]tl5yp;hm2jPL_bMYZRnBbAG9Z3v[5OIEt`0o./668Ptg(za+tPx5'&<U$^>zrap:8+f$94)5W`l
 NV4xg7LZd8RxbD>abQt-`adc]kkO]fSx1,hX3dYM+b=/rHuSt8e*k<W5X+NAHkq^0Q6W4<_B@jakAdZhQFQETk+-Xa?weMtwgm_
 $kGj6nT%_aSbdy0vr'=2&<)Q:(vV^8V:6;v3y%LC/IQ5<@`P:cbI#V')#qi4LLOq*TVz:`j3[ae-.MiUXWFL9_p09av1*?UY2$w
 (11'zOg%f'jX>_SX4gE4qTM-#j-:*Shpw%_/R7+XWT<,yhV>.m2Z^TGv#`nHBE^LYR-t@n:0yn7_ycoIZ'S)_CG7INLC<_K`:Jj
 7=::9I8o()#i7fCid2i'OOj7G;r4iX^H-l3SLScE4_<iX@.cCpWCJ3c*jj82;Kl5oQXYDN/$=/K$,5JF=x&W5>0Q&$,+7?BEEMQ
 MqVywJ]CaVKw3oC:a.$Ve71W5Ig'bqU&-h&*79Rt]ktYA/BqCYu=8;YjjSQ^;y9f>ooit'Nm/.NEF#v6b)D=d-pyl6.M#aPuyAl
 Jg);T+/:_0dR.vZgpU[T&#(mn]-EL*,O<WLrkjtro+XOc=p&pkCgEjcZ,CgI=cA9Y]aavP7<KSn-cpg5_PEPbx<10>@rF[RkNMi
 _bajUyykiA:r5>hht+Rt&f;w,mqC<?f-=a<GWGV<tU_[t,s$lAHjUzDXlO5%MzzXlQ'?sqUdOK>H7JIP1T378(,%)H*x^.qCL@.
 Hf8OAD+flhDqM7^iUb#Z@78k+13fSj&1@'9tu:VUAZa$=[N5*TX6]/SiuE,)*b6XpclA$fd[vpfhAih>&(be91?*XBVw#h_g@l*
 F9HB6(zUbZ09w%wK+iII&[Q1h%W+'FR#Yhjx2(MtFqZuF6guJdDG+V[?LJ@3:n#4.4TiHy@hb*j,jb;rxn^9ca$++N5G_c*Xw]D
 ?w#@$l%Yip*[TfYulf(/jGIbPO]ZqPkJ1_JC+W>]]ve]n@WEy[VO^z;A<U(;ug66SW,h_RV4r_2bi:w1#$wXe6V9Qu+v:.6^D@,
 1A/dEzXLf=1X]4D,$b&@8B(WkR2J59>V'>euBZ=Gvh,KG]v,s`:#bGkcq9OZFK]b[HinN9`/wc6=pzBOsjV`k`8=o/Klty%YI,J
 oo.:s$J,kw%G'`MBEf;8%sz=9n7%c6DYHplHKMiOxvS(<J*FY(wfCR5C$49ochLFAAxY:wk+,F,8E1wg$*#2-<flzAkd26P3HFa
 uM;a8xB;N:OEf3F)v([8G=99;^j.xDj>[u&J]uP:>K>s7%@foTISXq$t6CUioAP[WE3'.=rGCIyOnoF19[2DFxLi&:zMxxp&Y9$
 i)6c;?N6AHALNxZ'5m/AzA/:Eq`5tI>$T;+5nyb2D10IhcB>h[dU7n1w=K04H1Oqp.k(-hgUBk?`go@R[w;q6cO%oPhcp$LJ]b:
 '^Y><lXk?f(Unh:<=uPf=i`)9,YQ+RzJA,ZYdXHCLfvxR[Ufw8B<I=Npu^.I1xWLH#W#Mmk-kV3WD-4LrxT?P6m?r0i,&tSkc]c
 U`f(*dqZ:451X1CJuj@h-R:]/x3tg8x%HLGwmmjy#OdNP1xZ@IXE8GyzaV]TR2Z/hKe?K0K.^Kz@S(r#a7Ip117=M_?PqNJ7-DF
 Gcv*_lQ_loSg69.QKu5?Dy#Vm1_8p40D9/x#l(142y(<l2rJrLYMZwBNun$_ztfqEyi$.IPs'G*k9CJbaV[Fc<D@d8ih*ku3?U_
 5u)HZOT:Tz4h,SBF/mT'n2;IQt#-pR7z`(<71$gYfY_L8r]jrR5EeZR:sS*^vnO;/#T`4.eW2JAoK]B[KZ]vV$,6''`Yf_qa[X2
 AsCY((f-=&tB1?p$FpI^?>_b)OIk`>6Q%;[XjfAv5sK6Jq3V>2UG`B$]qvm-gxc'[Yst6g*hNt:H.`-+D4qATm.B+f[1aMdE.Di
 5Nr.VO6._&=<?q2a./5UbdKCQfXEKOnj/m0'&hAVt57pCf#7$^Gc/eD@_z*bTLEx6&-0%_MG@kzO+R64sT=[w'XBm644([*sk]_
 BrLU&krTuj`Cp=omSyi5I(>GalsNkZR:d=3,w0P3`9SE1O2j@L/iJVdjfb<Rogh.D'E$9lOEfsebM8+Pu%kj_RAb(_Y*(/5I/_]
 >]-1WY_nUb?,WcSTPdtEBE$<l3aXzj&;EFpaI&^;`>:K#WA1M*sP#>&720KrJN`0U_tqDpSBT2P2mvwq3'_j+FSGKe=3yKL]Q[N
 oL9+k5).G_RKR$1MSd%;%DvLvhUL@?<fIeUq#85yMNF[]mew(a2G%<cn%.i@FNFytDs_f^>gq6tBWZvIpvNj81UTJp.d0)G6JR3
 (QiO$dkcHOvxb0/:kZekYPQ3Yc'6E%mw@0QozAFw`=Sun+P^`DJRN'uIpIfqpM-a`Xm&Cp--O,r8u%v>My4F*XYGuwOT%*<#=<6
 AFjq%z/@BU32Vd9bXr-4<Mboz#thWp'_y(*(8z1vU,6(-[8r1*fh1?m1*kCR)b?cdccKWSGg#s]kR&vcopAi@d.&SVstKQ1NTV^
 Hp11y>@_:juCu+dlb5AnaWTsSS;2SL0@^7OBc[w&-:@6ibOYS,,v2[DLKBAH2rs+t(T``2BV%a/,L6@g'9Iyq@G`L-Vv9h^G:2+
 lT6Ys+V^:M.^kS[UlcBI10&aj8#Zavmm$tU8ZI/9:i3$HmrzYGBWhcSGF3_0Mbr(Q:rgo53%fp[Y1V#m.T+Cx&N,nKY3#7Hztb3
 />kG(8,T?U)refu;am<i1JtjA7JXvFM<cNE$IfI.,X?z@:0p.Eu7<xKla/.T'e%XODF8%D[,ur^(.FNjB_PuvUDMs?'86%fJ)k:
 yk?^I5J2N5kk^0p)AAew[+W(Lu^=Emln'FK_jgc?4oJnQd,nY_H)j2aRIL>FVSc*;u[A(`_t`Rv6WI@zCa5aN1D#:rw$d>us:I7
 j>iu:&WeUKPmPM;,Kq6l1xE$^*1Gcnrq5^(`:'zmXsED3M]IfxAQ1-wrD$nQI7h2crR1;K`N7z+Cr`@vH#URn=p?31v8mTZ)]CJ
 ?#($k)..<K]4*Jk7?r+eF+dhAUQ`3j;3^1_o[>7)U@UZ:Ed^*bR$3TS*N`y-?#X3lZw@lau>@5wpqM=i:gGAJli)vo$8ze5n*z]
 Bg6T$XRM%B6TDZ`G'A_Q5;_05x3lld]WGaQFJK0<2?Guk](S2L7.R?3y1)?aYY;m=(1k`>hVDm&i@UOe[D8-F/ciT?33RK1Y:T,
 :?@FOj`DHD`AQ`DWWmMoZZxW+c@?6#DF8diwZ-+uCgw`H9TcV'lAO.Tc/BEZ$'Ak*Eh7;WCZ6#LY<qR3'BP+kh9FmPe_3nr+eOV
 A_v0Q;]nugA3[?E[>(np1SFk5nyMvqYp^9pKNWyg>UF.e8TNhBrbg8aBYoGIg:KGqjW^JJ#GLzA;`*@oxB4t?4DGkpjIhd6ux14
 G](?tj+r:<H7HkZjVz?7j@P=Unx;qw'j5`6IQo*L-j<*F_tS/a71=i#qvBnSc,cN=VB7q$tfO-S5e1U[yC'JjV'(3s3RL??+i;O
 b0aETp#u(ghix:SN7jY=Ew8zEqQ*v%rRCTyi:%H7t&Zo`:z[X^=S-?4^9B@Y?YvU`t`>;Kaql3RP?wlYh=+kt/&ueG-&i-MQ(XF
 >fdOIkPvfqR&ewx6JESdu29jH+hEq--k,:S_W9DJC.m<U<rWPW%;V&emNIB_b]pyZ(y;ob+Gwf0x>?o;T`KS$3/x_keM2I5fO?/
 d]f4I(>F88NiP:%kx1SZ6deu8PWE(8+@TrDN,KGZ^JLZAZUiP_e9S>z*x<R+DxXnM<?Fl/E>/$1m+E@n$UDOR6@p-693XC<1+?k
 TbI.^muD`0g$1d:)zy)TK#Uzwj-&2XPi@O,=90_qx,lZAVeO.s$dL1ip'OGo@r]^vAF)t5=`7?YkkEOX:)+3JD)5>G^2A`<=#]_
 c(N/%ROVK./gq4GBMp-PUFi>A+-X,Q5Kf<k`hl(3>G<b.0h@CBk[mxxnOnOjhL6YhKA8a13V:vkaF^V[)O*eTGd4HorT;EIf'lO
 kc^&WrrpTo.=AD&WBxXy+8'ov3$Eb>$H5o=gm=_n=&>?N163*>3TuPxdP5P`$UO:vJ`&jMl[T3dX#;b>XqT3,xUCz5)wUOu#O69
 %oh%V`n>ePHQe>fJ%;(X;S@Z7=v@a*$vP^8nfO@ID.Lhv1CH9nr0L@BbR#l>J1ur:gDia.Y_HGT&Nm&I*Wk3qkyKN:ltZ,(cGh1
 n*2]>]j^OJwKO8luoB)N?P9x@w<kic=Sk2SIs)%nkX&tX1X#,J=V-dNz?n5PN*_GydzyX*ET_keP7WBJZ7S-p9>7L(28/aNRTte
 A?nj.)9Cy(IDuaBNM.gLO6C)>MIQQ7wH5`[$1&NsO]husyFhZWeWrwtnoJ$8Xe>=%Y8LN(T6NKgN%kBVR**r:xf'>-biZ=vc'.S
 f4,wFY6e;q)0_MX]'g6xGXDJ4e9&lxZ>Rs6e[mDKPi+bqd_ZDH4H28o/C4lmLS>2x9gD;vc1WEDT87fljOCM*)j9TcmYKN8/Vdm
 Gm-=xoG[*vdIw0syvgsO>@49gITF^JO#*iy'OPdtZ:$:A$O)o2Sg8E(+`G).D2N&)h;Af4EU$]^s%o.$@TUaYlKiJop'#cC*A,7
 jHb]yo.weD]&p7Q0195[zpdNLG#;6/O=qq$'Ocwy`OjFbBALLGU,/8AJ$M4oR3balPbhf7vvT@]27Ih?mfMk%NUq(ibn=o],KuF
 S'SS_U'eYP[ASLZfcsJZ&Owj'bdtpAS<^Dc?'/wM:hm?;^z+k?@/A6qF.wSUG%f^cu4kioQi;]f4_<8c@:JtWo_DYxBqtPre'aE
 q-I<>l`1PONske/VwzeEF/bga0&84O,bhCs)md;*a.P['s+YUGL^Ll+Iqm;<vNO4bE8aUhs1YziennSh'OC5?VSB;Irg[XN^ss1
 oY8;RS[Nw3S6%y']O69duv>He?&L9Ut^/memM_.C'S]I-bvRiOQ#fJ;EjDglA&PR'sGl0y)$gBh6'6?X>kiuZJV@BH=21y>9V-y
 ktkb%vq6iLy',kYzytub(4E8YlG:;@k9p?HmBfnI$SX=dflN%>g[`qlK/`S`uL1k,,okPO[m&gK.cg`+D$Hg-xrCQ/vEr5)Tbg>
 3x<;fLv8uZ@nNX:tA+_,W%ZE/Je70;>WdB)`:pH%qP0>v%Up<+;/lH_vJSIMv&V0LOwBgCUrENxcVmY[=_+FOt[C6z-J2a0'@dN
 6>/G&RYyuspM+kTm7a<GOI]8$*yL]o8u4Sa`E?T@6^7_:b*r4;+'*`8uv`2;Q(k1_pyznW],gQDIY^?&<g[-Uh%T-f;wRrfbevZ
 ?)#K1a1&PvdPXu:Jc/rREDi3pAli(gYmO1-iq:?mhZ-*F[Vd358X5qYmf_+R53Cf-jY9`BeWuFxr5TpJBVk$3q5S3CZP#gfQl.A
 >I,0FQ0zBoiS13M>XNZ*]z40KT1^dAqU$om#arS0[4U/q?G+k(0x/`#E@E8xYHqAfr#F3)'.]Z6=E)rP8O8w.lFPeG)Z4&)%DR^
 eW;jfIe::ThlOjxcZ+gK4*3XELGa`/LM40'yL]4pKj5(q%pLBN+S>j@g2BZad4q)nBU^zM?WCGgV4R5u%D(-kRuW)k4HNS89Fbh
 c>5IA?@$obn:P53:PU-RyjBe)nv]h(8tsLkvWkHpbLC+V*1`4U;TL.iO`B9dn?gzD`*3t%j&_2G_Xs:=mNp^^eZ4ubQ22DKnl`A
 G?l5;^]T`vgY61BV%DCV:_mL/THu<Msj-++4cK6p6o''l]c<1hFkaTRuhmS]Jq6ouZ)Fy#SaVG^1ly*sexHS<M.vQLd>939k52)
 9h&tWCG6*Qs/>'*QijSdcf25[0vTPY5;0[78[V>I>WiY&VxEZug)sSa#evFyIi:c5>t1zVgq_W9,iPjB?8rY,j#GAoW0EwAi;G7
 dEOl+)w#g#<EQG2jUBbAP%usNK$PCs'`$OuOl>n>6iMwjk;/k'pNLu6%Z8%%x4?b8EH.j@Vu,+vy(Wwb[?P%b49sse7(BSR.1Oq
 'GC)R?1<+>MhsA6wtPuhx-H.q$6t)^.g[)h8J@g.7lk06OZNR_TS:%0$zEJmMGB0Xxrq#8F7*r$Xra(q#SyM9Sw/_pzb,N8JPx+
 P:vTcg=p]SGTc197PJl;8+_W)k8nwLQg]:(HsM7-84Q>Y;_HvSl.NYV=uITCx/XIK?IIwf]Y<f]Ytb+g5Qm<,8c@Lex&4Cc99ES
 b'[15MHCWi<),^zzJF&KW.--P+W:,4i^8_NDnVg7P#TC:X+$6iRARJr8GULMvrUfeLx^$y=>3IVrZNewnfx)EE)bGPc%T,yjYbN
 #Xa2h@1GwD%l4P_:?[c>BEKFtn`YL1GxO6B#&0:fh>#gs]=#&9adkw9?bim8[7:xd&<@o70O)/9YU-.t:;Q>q.($294%(D-z%n$
 D@OoD5JOsE#nXT/.,>dI$FE3CTV6BT_4/3?0MswUDp[;bme2;39vjb_DH)-;wD(=wjeTEFnM=jE3(+;`^=1_@,hLe>[-Ur#jYUC
 eM>;GR/umvG[wC:yzW:-Lp_Mw%1S@zE$6wm11SLib@^=<Gok:YxM)U4gB8+WELW`-9>Fo<C-m>9hPve%*E*:SVsiAO$'8Yx]-p+
 u>lG>6NO2$EFSmKZ,:IB8p)5nsXk(H_UYfwaeXl#tNzN7-_D4zqU+0_Z?W-MKQ%-o#`&Nw`iU2-,ntMjWW:V]F=8nO4YPt:Ev2f
 ]YuxTH=@onVT_A1('R2$C61qNBk7Tg6`7<urvi2]DZ(wvMtMIN>='fjR;wz2Av@v)(ANiBmcw%1f5>-/1k#,lK8=fG[FvQ:JD&K
 z+q(84Y(,_eay^Ag<pA-^](w=]m%^YRim%`qig37Zz(MoSkL:^d2Js;qM=/#wjZTxX+gOZH0ZXs4])Pg1uUL>(Zm-T'Y2f#9U^1
 GKDRZmf5m0JbwX1gOuKkGk1OvF>KX*[XjG_u4<53KTqEE+[i%qYN43_wil<`.IqWdcb><+5qLN`)#EJd+0sZdRj?uI6y1G6aQ:v
 s=5$SWvn8j_3Q*W`+i<delr>fDV=n2QjJ#I3CozUp_FgYVl)O3E)q=o5KS'ssf%*>qglDM^%z7ONP>*7$wBi1%Brsjz-G]V?mVu
 B7OS%nr]qlW&fvPv7[zxL&QB[lrh@-43BSTDG).a$BB]u64x>%_lbI5tdze8]Gu':R/1[(:tr?@NtV.n85o4If9#`%`N`-_ojB%
 zk<*%SSfVGVxVfS]wVk5ZgN=lR&.ElAsz9ZQb&=l4q4vKkUy%#m2ArwVoIN?Z=OjjGQd?PrQa:+jW)%3JtAM9u@/zk2s[t8dV01
 U2t;54W4W,_dCHh_xoGW9[$huY=mQFkrQ5tQa@xHD&()0zn_[Z(^o'gBPw6e,/g[L`L?q_7RKL5e-%F+Ku:^xQ-#jyjE$$MB^w-
 6?;#SCP<R61rRgWjEYU#qY,z3Cg(7Q>as2gHatPh^uch=UM_0H't8rCZ*2DUi8uV0?]$@tDiQs<>'pD838b,9%IK4s4;AKe*5;$
 >*.OfB(@-0&:bt5L0Pwhd-EG:Ck,e.`ckMTB>8CMe9V.l+l=ui,e)V)eqYo[c[@+'_7-Eg`KsXiauE,yhSWZuOz&uK;5-Ni4]Vm
 t5H'zei-.N)wpy]H.83w`D_jls^a?P&ugH)52u.)=<Nr$Bf4[nncc0l7vrs2/iNDN8n$CLdA8n87O)=pycdGDrc-%L#J9QUk&++
 <Ejix9@6]E&kV'Z>OpI[A(I$cxx)r,b?a.YYSS>$Hp$d-Kg/,$AGL_@F(K1U]Wp9:^WK2O,r?cH'`ULK9/z;7,qFaLn1.EVu3Ut
 d($7[qj4Ts^%]E#/D3P#v4=PIUIUptdE2sto&OF%5;ndO15Ccbh_?l1xu2?'vC@kj#wvRyyZZiAzt%_ECxv23JWznfROZWE;5+h
 NYaz%Z4zH?U;Pp@]`,:B+7K_KZ(nzbl#s@KDJ?LyT//p?n=g1UeQ2P_`]:tWviHt#:q%kM.B.;#af_xMEgVXV8;N0.idx%='OSX
 40jej.s&_%h>J/@<i4uYV';Nwp-cwzTEd&WHtJ@SoFWl03Q>fJL5]/Hkx/?J+JDNLLj`A3O/CYt<;S,7[;>Kcw5z4z'@wzd;8eT
 (w)JEf_85=HmE^+A1?a8Hd5BWivl*R4q$>0N[^ngy@buLY[i(dBYYc+oH7C?d<4&Y+$[CE+vYKJ(fVpW*O@qGc;9@>Ym4t?&<Wm
 UrVEb.%XG8uypdI?N8k6EH,^OSni$_<jG,e+?7SvgN8FEyow`tjvw2mX)vIJc:Mg6vfWDjGGPO$2uf?N>lfhtso[@B?VV8jy%:[
 /]kb*P[K[$ivVMQ9JP1-.U+fCEy;N8JiqUNVZmi<T'[76(M;7Py>bIxd1w=o0+%w]X]@u`MUeQcjg#G#ue#x0&xc<'WjWsw)n+6
 t2$;cyRkQd]@$ngz?rrCxw$;(W1,75#3PF/.13c'h9x+<hBA&)O@MRq+uB=SwxpR1P.[9@CoDVe.Sjg>Yw(qTt5ntrr7sx&=u7D
 7bj+_.;f%<E$OUHfOzC7ul*o(Sc7wmvG801UhHS.Z`vV=hcP['I`ZoL5>VkW_6.1H@0@=kJQQ_B_Cs)O#Mv[%k3&]6?Us+Pktc2
 HI8n+&U&g(I'XVLguoqPTp7iyL,zRhVgswdWO4_[<%eMMxR7um@.hb'lin,szrK98:*[d#LB@<3SWV(Z>p@=]5ziC1eWu)q93I`
 UO&55;z2gFfoo4-[laEZwyPQsNxiHTz>K61,J0d?_F9.uB#C7X[dk_,n+2>0zo4w9`#u@N?aWBVNX=<3U-XKqFz81nAEQH1=s1E
 3SuDPd9b6b9A<Mv,6q-Zbq=&DAm03n`a9kneteYZBjs1IG7J)ZJ(V*Ck8P+El-ctG>m2+SY5h*G-,kK<LPz;5P0cIzyB^j0%S8f
 zT?i6Dj3SvA^v*cFLta6B.x[2fy_VBa,L++4`eXc.gePK/FE]LHGtct*'1v:_filJJ8<z]0wZeT=syt>%(kY3(Y(+lQb*+vbeS,
 e>yYP2S.yH()WV11/78NAXG0Leej+PW_3&o_iND$rWR8jiw./cn/8j3z1DF4o1aN8*tr::f&cy2=5>T>P?rdgw4C$+N[+s3kj_:
 QES0mDc*pPby'UtapFx+CCG;sHz7q8UK5.>xfUMMMvQueA+%nL)B,7hIucj>Y-KP1I>fEt2iDV0guK[PE]tB0#`Mj;oM;=;`m4`
 l$)ZWEqgmlVI0(`xxs)Ol41MI,i<^4z@U#rv?wxg`KA4DijI'r=a0>1tmcifzv^z:/hBmXefL=L3WHrDPLz3&5+n`Z,HJpciP%n
 4+ia_jy*+]E`*0kXD%kQzgthKztwKbCRJ?z+:xcCYboq[ob3<HHn$t8JIAms_nG&rcg:iuRHB^j)=7B<Kg@RTfRRzjhyVb&^lKz
 yyi&o]P=`YyWn&H3X]*v9ex_4H4h3JRyG0t:VLDR]$PeJV`&lAv7(C]E>;Wo-_4;'=pE^i6B^;ydl1wfKy=/-XYk7)Ym-3'0QvJ
 1Wz@a<$H1uNX'Fn5rZ`0tVVbn:,PWgQn65;m<66%B`eUk[I?f7/RO9`=y=[o*jst+,#k<8fqVi>3qhflGiC@NYM7O8Wacd,73QJ
 I[aPzFFc`@OQ(u9*atPiLX.r<k$U;xf-</;*,i..Y@)tpwYK40*5%Sm.t[HW;FIuD*Q:c=beP]kM5FWX=R/RhCue`b`G#c$7x`e
 '1kR6jRd-/hGCG6To_eox(I>j.t4O2c=H2zq+gShSheUHR;'l4FZ#=SY>HlhBwgEIQ]K/K@#hBZK@flF,hw&Kuqu=HJ;Bf7qDA[
 Kbf<+uCM.mdPqO523J>T&end?V4yv_-9@.8t&R*2+$9X:b<x09E]13K1,-fpVBZuD,$?jTWuIHi[*Tm;qAQn:CKrL``$UK>?8wP
 `'42Kf9I5>3o8#jVtA9-`Cx?c/+5b^G)KfStz>/c7LFVFHRx@:`%8S-ak8U,8#EoDz&l_PJoWvLSOjH99m0v5Qf7w3PMP0PGB]D
 cG2),^'3JS;d,@T-#3j+%@/D&C54I^wa8GU>Nc^RIZUVe+Vt)Uxb(<eyfg^Hd/@*dzs=Hjvg;,e8W^bK0Bjc.Cz6<owo4QtaPLF
 Xq'7K$^dEJ<0ZP7lH&@>][y@VJ:9BtYP$=o$>_6<;6Z/D5FX=@'<r])NFYvuB&kP-*is;c#W)R?%/@)E;CsgZGQP2(.>'aVs%1,
 TpL-MM%$o;m(<19Itt'(tF$]aC7u*=Cx(x?($9ExjH+cO1LkX6fyN+_.LY=C*Vf8'ynq4iuFn1:&BV8cG^P,VJv12JiFP+$x%7>
 :Y05<'+h5$l,NBf$dl=c@+Ha/n)RW6N/g_S;]b[K)_3E:saY5wRvPc3-8(nwyJ6d7[H39E*CgKFv^hvBefaS[JK^d^>rG7Xv)I/
 Jfl>8jSrstXCd_CkTnt;iAS/Mi8tm_s**;:)s$PU>vRs:hT(;`hQUg-G.Pa#W@v[#j10VwL94+aq9^X)#0s5*Nq13i&;MJ(82/b
 9WS-Y8&C(/7Hvyk->_(?,9E&Tk*DZImi`5)=i,Wco3s9DDsh#Hrn2d?s>p@'@31FB?J6j&b>l=A]PvfLp5&2q?vai&2mdF$'&7)
 pXxrRq2tNo7%P;V]TV+Dd6k0M@+[,+zK6;au&0MIj(CTm8llG;yYNKovU`@PO+v$`lp/V]5k-6d+Lb#ReYhraVO),uWali]zA6R
 mHsZ/G,X8?CJdOOe6XTTuaULorh/Y6R^r)ACmW8=?l8I+w%9t][$(jy%lsuP8T[LCL3h%ssFb_H:[aMW2^I]P:,;'au*>UsI6(O
 VJZ)AE;)@^6^Kxi3urve'?gb^kag-eN^Ae;aW]_eu&Zfu?8w-1F$2[5T=WG*T/O-D&fFKeFJ^RKO+g7eX73Z3K&@<+qOj1aXN*=
 oFnmAkLnV*oZTU=2VOMrzQTq;FL#`.kAjWTGys>`hW;_):)Q:4j=$W#rBEh5AR`Pk0e[Otbi&do(P(utf;X_qTe(9^:<F<^YYhz
 >X]dpuM7dj%6ppvO'ufgD81'9I<3N4ug*4^$K1;Hxl+e1B:qj2VqF(w2R3vt[N49$FaK^.6u;)#g#`tZ24W/+nZh7T%/rr$dWxJ
 =_x,1)87>g@f@Y7wTqqiUiihtJiZ?XA_8JNj$^.Rh*j'T#%B9^r:$Er'&hY?f&vpvZ_5p%O'IjWZ$*X`FS'SQCq?*eK/zu@'wtL
 w.yLO`Hf/+8,-<?C`UYxAS:Z99qp^mdnuKMaFqtazsZ=Ge[`zB%qE1@g$yf?l];r&ixLyoo+aHCh;lzeDv:nmsO?ZU`Tz-k+kgC
 iB[=IMh9fbshackys`s2J)Ws3IG@Q7LXk6;d'KxdEL4#u&r_YswyK=GhJ*OU/2@=mvU)#BJdLMVZdd1b>2/_6tVT91t9,o2td-h
 KAYWf?_&&ZGSib`t[_FG*X(B_1:K=9G+81cQ9/ZhEzcbrIjQtIw(#nG&%D0R#qf?h2,Cnq?JfAt+3G_4@J`R%UmrCBV%<2KM.vJ
 i_j6nv^p[%])I5v,R+:oy-(H2m>t*jQ98:<X;(R6aleFa5ce@iSjX3aE&2:4O?s[:Gz<$SwN=<l:dwORIZx*-7^_u-dtwUV$i=W
 2o*?Xp-mT+7e.Qm3W,jc,h<#78(Q8)^`N'Ctj<E,3+qP52jJu['N8(Cqx@?x`]Snk>b-apRQ-Ry=V?Ia/:S+*'6=Ymw6D&hu%:-
 *_L:eM5M2A72M'#>w8Y%>XWg(&@&%@BXndY]&cy0*OulH4Dp;zwrRl#2hWBiL-lx.,xn3-4H?gcl-sN=imcciYY2gi@I;9K=ux9
 V^$qZpGVfB?I$#,*um5cAi>rSYjW-+LobV8@t?$+o%rcU`UWjU_fR1@OFkfpr+bU^=CI1W_mxkF,rw87(p&L5G]NeF5`Z:1%6=#
 6<7QNZ*.Nr`)8*%eMnX*bN2p>[NiX8+qT:P7mN`bk,?zOd:GHwb1?tZW``g'H?t<M6PH6LCpa<l8Nx2Rdfieslo?Ryu`ZTK9Bvf
 ehDO9Q8%RMzy1El<%OgoV-Qco]<HH[$<ovDyY__$+-bA>4bFI,LMiJa>H91+9JjBT#miYBz56FKc6fw)5V3r1R_[2,.A$1qW[RY
 BF0tXf16>=NEJY4HtY5c]kE'jE4XcYEMzfP8ucqvC.oqB#-#%xGYhJ=[h&NR9UF0MK#O*8x^R@h+Y#s:<<JUKAZ%<*jSj7#]?Dd
 D#?h%yYTgn=H/50,*h'3]zxE6&[-aIXE?wz0br$%3UhzHYJYGVqS.VLnD,_fE6U`(VV[<DbMU5YxU61RJpw[@48q]H>zE;B4z)u
 AZnrwN?tIpv$-7Psk;k8EVNbNLS`uNRJ&AzCqfm<GS_Ttb($7;i]xCz?K[(KCl`yJ;THS>HN:V$$uXS?gk:mdWo,D`ILJ(18&JF
 bDZlpr.OS$P_C7xfXqTgy(j`>E[a-e,imA;I5oer_qqG*2DRq>>wJ&F-5@zaBAMSHj8%o)Ksks;uc@E+x6GkYloPT^U-4uHkq0c
 `^KC>5ffd4mg=TT=L=H#QQ,]dYO;uiDKT)jPfjYpqvJ$?h_8uDg3TRr'<t>#vSl^/#Q0dP[1`@(wL;5-u5JakdT#Mq)j%Fpj4vr
 44^.D>v=fpG#9vc]T]9]N?P.iIoB3Q(%RgFJc>4vh+#LmgyumqszZ<BmOVm6WeO,c;K?$^X8nIGO#9udskG1Z)w(9(e?t+pkO22
 HXpc%A._'<'eD_]D2by0N>.iTk@>)jL*w+wKvtCD4_D)krJGy+PCU=TcQq17jxkbwG`OqO1f%,gEi)YsjUz@*kF:2bgE$5+K4%T
 D*u5p$%.B+Kw;HpVT:U1y7P1Me$A>ph+`FOb$t$[OTj>#zz:o)n/Y1)2^&d0WYBiSNVEI[@Fk<aJZ&cgKpf9#4y],Gj^o;j(d;r
 3b/l6oCgwQ]cga`]M:UoOolBt;*90m4GCC,R;?,QF?$G#?FR&z-Mqc`>1pK*4qP/@B>o%L?[sA&8xs_^?rayA=s6:xsTR7RX=),
 EyCRF8EBJ1y<H@3>iC`=j`b=hwsVU1C#*^jdTM)QkZ#.JO2nPr5z)8_0KX]6JWy.30R^Qqg*Sj7Bmbo3J^-:$$dUm[_$1KDiP4i
 xp<vgz)mEMZ+*-If7bdz*gbcArSPc)`%>4YAmeU/hZ,%^6[x_d]65BDn@DqbWFPV]p=aPU1Od[a;KyIXQ+<D+Xds:Wr.8<#`7(`
 1gGp98mAxcK]XmiIo%M[j-o(3KEOtu&ZZF^UTm2-O<eAQ-#95#&YaTYTCL*EIx9?M(k&iS7%8&>RGZX>l@$un:HPNU`munMW/Hz
 D8BT/RO:fy:e4Lu1BkHw`6F3_uUSnuEe9N$Wmv+[2$wy<<%<c%/(2+Nr)jVf;=k35Mjn5pzAD1i.DGkb6D>F^it2g.Qo[I_#h^g
 Qv_sC28k;jeF0Vu#x1utA-czM%gs@*ug>YXMMUJdtW13z:k$kc9KgE5v7ev=22`.Nj-K>Mf=x/=e;HRGE55kg1T*HI6[k[r:RRm
 o%u%xZ-r=qUpPY-YIteX#AiO*eF<_@[R.D%unYp6/AZEX<%RWLJeu<0z;x2uCgd=dMS.Pt<`,h1NX$J4LTJg9qzkzh7_jk8.=([
 [W;4DN2mx$SpDeW<9^MV'Dm1FelqzbTOCM#i)KYWXH+*%(KmLmeil+h-5.8SlH*OkPcbfLpWOk%,+Nz(-XJ%[17S;;$;*UyRla^
 r0<t`Qx3*B[P_N/%7GfU4erGmD[yC7>WRqk)CEgfym-f9?R;*)#b%m%mr:%?L;Z6TAO$LF_TG-8Sz6Xjtf$-Py^c1biu1zKjI$%
 %>-LO&7.y0=SA%+#g=mG8.>)JLyT?5^'Q&Yu@zB<;?$yIitxnTQF&YpF@By`qB_c)-61.7@&5>FbnJCVfcGQ^4Wzuxi#$Y^ug>;
 3IMrGXSfkUib0ZefQa.28Hv,+5,[av8zvW)rzvgKExV(N>=9JuKc[rTlVbAX%;gld:0dcZ:riPMAY=sC3/r9R<fKD6-TQVh9ft=
 -gEI*0TX7H#4)Qp$_4A_q+>[?c>*L&+)Qed7)nTl,fg3v<9N=GF&'Y]1vAxv%v`P^652sA#KX;8[ry0FB&pj-3QI%#xTA;b_?52
 UG'e[7l@,QbK*5w-K%7-;3gs7]r7l`0:IDvDa7BJAMo2bY&9#Kn[-fO=VBgu>uSrEP'MPAWYY(4%Zm5]c^X%T6jayndn-*p8w_b
 Zt)axvq7Py*SHp?x1$?)OwJ_[u=k;cb9E1Z$A=J`:eae-tns%<3RD`ARwlun'x0<D7w,SizHY^>oJ>fyh:5?txl$^Ox7>UJ#ZK5
 )z038s.&h[.o_U?#go'AnVmZsV/@JcVp6n8S^Mps]wcuOy2oz:hx.3/-7zaijhY3bhT/$q(Ao5TB8LW1yk:AAXTLaNrTh,:50u<
 oZ1@s;wgmLmm?*9fA>9:sq7s'mt`)H^-3]a2SJWGQJTOx>V=H`X.C=hM*Hpi.wk'DyoHq[xa'P&opW[UA+Mg?S0S531XDh_1IJP
 -GCBFc%c_f98<w[mmjI`Bd$,[8Igb*E<jJICCiEt#/[eH76'.a2KFCbM.CbtFOyWsix=eB<:n/,K2%*k48F:,t#-*@?=s^txR:r
 ,F]q&j@9x$tNDsTtYGb+/`Sc],@b]4'O)D5E=ROT+OOe?$Gz;<O,g4v#$*Ddb'xR.r>$4jXW+FpA:[<ieIPIxF5#qnZ0s;<1O@^
 d:N%P7lCc%v4k0EHVD5$,n`fnKs`)P9@b^y_LVJqtF?D[,ncDeob)YWbebhW,IxXD*ZvyWdba<%6i;MV7IPA>#w5Ci(grR:,/E;
 WRUIYl-sIC2ulHGaW1elN[=>hej1*[*qay(RF=mB%spg5anUePZxY-PiU278J4?:vE'7Sw3V>^m$1e1[5BVQR7GWed/rz/nIKap
 dY>3BfpDAT5+l=bCRp#.^)Qp]MgyBgMC8Uxv%9dDXA&//TbFm&NWTrSNj1r)'n.cSC4-SI@Y,4Wl$*-wc(a[7Ype-ruiQx38/(w
 uz?h<.,XtNt1HMH3(g_C4h_H;0&+4]b/fV^H#1_#QQ2(vZ8W4[H7%'kIrbbg7n*5/87K1T[#._x_<nu@k`+lLMM.o=(oQ)?-qlt
 _35?TqADc6.:;l4a`]vMWaI^peg/3nwAmuE>zT*QV2?P<`2nM&y*q2cFVZiE?XU6ALlqu90kYd*W_h`CsQUSyTz..._P-NEEnL`
 j$]7x<HuY[kY<eG'YiR,bRL(gxgCwa2hr]M6C:BVlF9_F[IIcQ124$E1eC1(87W+eNT@Daq?@2z[_/Tn>T^@#EOuJ*[rz*t<bjR
 )'sj/ej/,pd7Jex)ydRJV,b9Wyk'I$BKaj96ea/rlN$JTSbw9sxv5:Ae71XRijnnUIl?o(UH(UCJt(gcSvL8e]2:d>_%mjhc?Nq
 7vlgBx'rC'3+JI`L3=I=*jU^RFOI*aGYWeS?ly10yAytJ0'c1wTKn`NUaowh.JOQdE_$HSTU<R0xx3d<Kr/iw>ipC.G.$:7lIHn
 Ae+=)H]7.^@_b,-.O%zB?qEZQ6(moAT*Su`Ml3Vzl@>C>[1U^bTO22.n?+4E(4Sw4pGrY/F4`F&=aRCa%I/.#^+G)d&w3(YEnxz
 M[HVmz[zS1mQd;b.(</,D5D'wHM5>p:Sq$(8rN989E#C^qv5L]y'W<M$Dg^x0#tB9iA*%T/-]0e]-ZjggUH:YxIr'P?NsoaAdW2
 +R;x,g[pxtv(u4T]w<%kag2hb5I`MB(Et4(D/L+2rlmZiGTyf0aGxqqjioyXG]#CI<3M9W]=,id_DnzN:biJj2>xXJDd0ATqx?u
 VlW1GZJA]CH`EsaNPp(fj;?k8kCsI-S.8;y5n_y.E_xiHh>EV@k;#%F#]4W1*KuYpLO7Y0KL75:k,W=EyCSJ<,W'Lo_C<r:ZT[a
 Iq(E37R(]lFrVl<GcL>JOIGXKA;i4S.%06H<WiK:1fS@;en_]Q+d9Z-fGZ/O/ux8z1._KLN@6e6Mz:Et[lfrI([sG$-ibVONYCf
 '.<cQ-nXT0/3jML]*3a<aL-VB2OATri]ZtAgRc2mU74)qi)B+N/nI:d=jyT6/KDG3^h$'-AR6MTyIaR+AKj3=p_nu9]GN*RJ@tj
 1;D*iwY]uN6,G0pyNnb[_QK:J,Rl<gBxJ8Cp0nOVZ+#Y8,1&gex6+PHTeji>@v=q4fLG=@>yT^ma#Knq(Bc_JA4FJOk6Uv11O>g
 o9D5XxK:n;pk*auO3hpgAF64&2sz7]GAP6kZ[zhAB+)d@Z>@Iu[<@@'$de0wdja%gYe>z<&g4h&S,Kfk?.*OJz?@uCrueqceR>y
 )h,h')PMgxi-;/vpUUh-^&k*tT9i(wL0HZmg8;>K8Un+M.BjUuE(r?*E(](6g8,R7)DB02sgXNra`;^eRpUYMA`D(<9*1[0_F`g
 #<Z:CZ)DbO'.m9WNBrfQeOw9O2(`9JU)DF?:wJ&SfR+'>&+C$E#JvT*yWta^2RP1sXlU:Dlus9UnWj@Hf`>M%K6=5a&-eZ>RdZS
 zMRgv7cWhUWPm4'^<2[.z<xpwi&TL;<DHBr(:l#&M2T4%l+O&ziq[K:s4IFq4<p9_s0v]f<&8U,/^+LbJXD1#H_CvPh2Q*R7I[H
 ts.xyKorm<j1wa'7&LiD<CRRB[-aAWYq<gpojvFz`2&Vg4p'v]I7q.xR2s^MgCO]AOGwNDuHM&E',k^;fzU77pgf.roj.DSe%t[
 :Q2I94ifd5)dw;`?&@X7mUn6Yqen_0&nkq(N=7,b@Jg`#cNr++(v[*3?G+>dR7S97nlX33-W$i83VH'2W;5z>orxY'D>uN)UIo+
 SRH$YhjZ<MloJuFQg47@>f(x&%?[-]8G/rMq8YD^2:/ux(@LeBt4V&m82Q%b((*c*It04JpW/M=w#P-)+u)QQ'X-M,=VbH%L>Sa
 -TIZh<&WmX8%74mEOX?pItcCV+cTik1gnYa1U^Nm45R=p4hlt<Fa</z*kJhukL)THI4JeC=/xNJ*-'g(hXu0#YXiT?MKbkBSJ*J
 'b[swF_XADx0dq?ee7@r'E5@7=BdEq'B(O+=Ic;$DZ$vA^K=;V4znc<lKH/_,H@Sg01SZu9Y'%wpZIY:B4.F6gyedHo8qLF^rkN
 wufFXqn=,#t@g?PLVj@kC7;;q+M?QkdhxtF?HvFgO=ZK)DMuVtOLsN.:x]=`L#OX6iKgpd*UxmV,#<)Yk5=B=T>YOPVGO[9-XOI
 j@`L8?Vx.3=s[*a'c)#>cI5$J?Gsb+vQN6c_Y^jMq=ddb-L`hRFtfj=zuwo50(6+F#il=0gmkY(VF($zTS]3Z4`E-7m[;;&k6<^
 7Wl3;,s@2z1r[NWmt<P$Hz?3`/kL?K1krsk#Mrjj91#Ly`^E[1^=y+R.+tfo`O>;&ETaeEuNUXpf8rGmhg3GP=R@3<0^P+A&Qi/
 sjhBwMtm`[m=B3AKhb?t#/A;CrrRw3k[JD]n,j.-p+SGuBXAtMgoak'5%fato^-w%Ow?GPIIm+pgEH]%;xJa(<wz02YiyRaw6F,
 gJv[V?2+z9M'p`&<'6@zw:qA=IZJaj7(#.I42(Uqzz:g'?Z.N'F3r`J<S#*`OU9]l*'gX+QDNOD'vL=D)e^g7I)sfQdxYys=k:k
 z-1:FO68PH<a/ceuH%km>0F1MfoFOa,9u+?7=C0yn^o8m9l5&t`NTmoK]nH#V#n*.?>8xtaTp=X@S*EHb(5^;6xEG=R3HaB_E9Y
 mxu:AD7C/n#ka%-=rXt*XX]X':+X<MbEROT_e4paa3RYr;#LcuC-6lHpsAf<(U68J.;1JGuFIu+n='KV9f)QSLD^gz1(9zsw)5^
 fii=b*N3[1R-73ldYMt?1S/'wc_?``>'TwyB*:_1l#KUyJSwIT?H?m8Y:-pC94h:3mc)NL#WT*/4SS6y/pHNbsRqZ7#+a#SSfPW
 @ZS3m+%3N)tT>i-#j's.9gyugIw(s+25HNwv,#cn*0Lc;#v3SFrNM)gSqQV2[,nEB0i16k;*<([yheYL.luscPll34)n<HZ.+DF
 /58;s*DQ0iSF[W926^FrQYm$^%l+y.g%VcCo1]my^Xy16kH#VBkL#N)-]<-fs.R,8f2#Jc'nY9IFH?&YiC#k#]zm2o55$Lr4?:J
 /+JY/Og/@$%qxq1r=J)Huc,ZBo*yD^R@RQf,x4#4LiMv&/9d-@At_aDt9E5-Vgeh['(0')3(+zmj6fcVPB-Eme(vBcbq?v?Iww2
 `ki:4sNxl770uY.O'eLoo+q<u;C_F%tIXZS&j>,Z4VvP;xPWP&8PCruvjU=F;YY-2qBUCr8):U&ud-iA=2xl7MGVUeFy^2Jzh0Q
 S9+=eu<=+&8hE3ls)M&b+.wyXyTIEI#XMe3Uel(OHu^W/@ofUQ--S3NDj;cua)/tL&F@(MdUTgNdsi*7CvMDBlP'A5c/LvImPE2
 HBgFz4C^_>T%>O0QwL9a5T69p>8A97T[u3+JE?p,o1%jt/t_8Vr40QTGl`Tr,ErJ@;6Ulojy?lEZ:()Q7)B2#vjV5Ccx%iunUfQ
 onH(dq^OSc8u0<4rmRb'$wK04?Ba`dR4BT@/<'@0er27rJzNLJ92szFX6oE/paPo-f*o^)T*?rM7Zaz=#S'CVP.GoI8/U=j$a2b
 *1sXPd3BhXe8;Tt.iKwz=8M,HBqHtIdgaWGm&y0]'/OdqA_fsb3rH%7`hM[_'hH>x]4TR))O2BP/6([]h(Ya?VbNlb`5N-_aA4q
 egUXG$W+LH6v##=NTV(:D#W6a-IsVTZ&WDvYSWkF'=1*LIH_mb@DV*D)L+$,Ae2LcLC?.DuQ]A=Qn%)PYs>xDQnU`*y`u([^<TN
 Pc)oze:(rP5:KcBdC7eK,)q2INJ4djTMd(M`LbN2zc0G$+QB5NwOf(+&B=ufScvXp&+shDv7o&%`Kmp&2Eu(FhlSh.Rm?Q&i64e
 CGA1H6/-C*dK89o7tKZ%bjfW#9oZntLNYGxJZ[GG;LN$F^s<^,gqsxQC4/%dMX%e=%Bj:U@P+_55wj*A@:/&$gpAx:<Z@U[>[hD
 Idl%Gco=Iu9iO,bssBg/Ds[iw=`.4LDHfYy[n25f,?<tg?ym:@RB?Xbl@3fY1cDpnwm?-zVl''d4D`11zpOcrr5jPgv&3$PCciz
 R*:o+o@B]3iqJb;D`DYxLds(BzT]0N#j&/2m4<h:%(>;:+:ocuqN<i&bq86&h8+]wY%GWDYR-TF;K8kY%9PV^fc&L;<X)8nOk[Y
 2,l?py-Zv5)&zb*ulsP363tcjNG/(b.CO0Qt(%D(8?jxh<*&xgQ=-mL6Q*MYa/kQF`)R7%7imr`G%dn95?Xv'+jj5W&LTIQrRPk
 dHS)s=;?^e1`xU)p)5dV4fYNyuJ@`I_wK8c^#&pcka]_0g<g,N$noaRTUyX*jcXZv=5yA4DYu:Gp12^Oz_3%S8DL;*&UiS]bZ1r
 ^`Z?Y?%J8*:je`v4nIK@lG5;6aZz2G_):-DyOS/B6Y4jv.R6s&A%q>1KUjav`]Pri^AF0o`>m*ODg4i`v<hmwACZjpuyT_GCOLM
 p9KA2eP/8b^-1Yr'P'+p3PiW2e-Nm?R>#/<uHf<MT5W&;]pbM/y/%*i0#l;bK%R9/oy:f<q,Yh1HU$6cNtMffm9-#Jje,WlO3O<
 K-ehMr-?t,*JTs5sbi9cmakyN__?KEuz]L%+j=9lb-gd$B*D>K?7H8'7>Vo1Rk=YzJ/`C+JxG#7F#3pBg+0Ly*>&r:E+a1mcl<x
 &')R<YIw]dbLEh=kL;:_:kr]1HpjFV,,)BU;_Yh4V6+RAIi6nZ2-I[i_P*l6t,os'gfc:Z]IftOk[.gm6iX/.mjO5g0xREuDb4m
 iSd?O$+z.k`uNX(s_wL99r_Iu,o`]gzZTLM91b_J8ASGoDnpC%LHORmHpM7TO`G18%4qJJ51U3AO'F:'9F3n^YlEL1=wVODhdN-
 .?56qfuB`p-z8ygnZ;sbAekCjvEy3^=q'.0UoU67RE*W+w>q*TWvsIBu3oerb4_(Yw%RHXm>>RbOsITc7J8(Ly6aM0.)8Nl;.X$
 3+p&%A8mp=Rcz0_L6]/)zz%iJREznGBcooUSZ,5-gUklkYZAqWX/x/M8Ta0QD-pUZvu,4&Rd]pwNpLOJ))qdlq#5G<-WPRdUpS:
 -bU7dn6?9riOqU^p7d=RBI7OBF$HIwbB.ojoB#1_23j.2H@<qKE[Aau&SX_u=jXB&XU4d9([@*PO(Ydm<mN2GB.]@Fmy<4[d6?6
 60]islcNSc;5;'HYKb26/4k%'09P#-1f_V@RHim68QD@4kGVRvI*NQ=1c2)6VxlWz0$^S<L2acQPvTY:&P@BI:')uHFnrdnv>dW
 rUJ@gtYU@8cOJZtBlN(4H]UyB.etBq4X.yzSI#LYzI6SUN^58Nx_hRgKZ)Q/F/nm-[;CI;Mu@ba$kN-rvuYVRZ>If:%Kz-ZL+=S
 L>PdK,^w6W5y]8cs,O>f*YtdjA?PH`qcGi4]+(pt/UgnFs_tTxhTGv6&+w_5NmV0niwLxT_YN*cYGz4l:VkctspufTSyHPP&S/g
 TEACo?;RPHKi^]6zZ&MxsRnFM*VN8NfmpaS+)TlAJQ'weI1b<&C8u#QN'4/[o?ELo:*ZgLp#an.5e.t)kaTLQ4g<IL$D7Zr^wgE
 W/U%pe,LnjVKx2'E><n%;YvtB9>$mx2oXb=#4s8KP&Nzc1Zs+<:a48wrZ7:7.b.4%esVtm+&DKZUKwy74F=g0e5#%6Y`H-a0l_Y
 u9MHz.g?DEef^&K+Ppy4p9,[t(w8>Qv/3TjuIU#Dd@?eW*%k#KeuUZ)[WbneZaez&x7KvBi_:RgAlRjpV]Qy=Crh3<rU:;R5+A8
 Z&eqMb8oKHT0yBZx/uJhvV@$@nb&c)BweloIwQrnZB_+oDpMauKXejp<K@#N%x%f,_i:p-tB*dCK>/u-nt9p+lA:AtA^I],%+lD
 ]h@'$$VLLK4as(CHl0iDQU7.]Kh+cn=v+;W&7jh^VJ)_g^yH9M4,>.L.k-J'X`UQ7:oQ@w>pPlrgM-U[-3@TOD:W6SG]JB]7P[C
 t+b`aW>tIop19y?>Z#^.X=]DjGL)a%*+84cz:e)kQRk+Cti3s7m,nZ-@8b*[>Zw$4zF$,Qgd>,n4y$rwVf2&/@rbrVbPg1O95^e
 Z3sSGM_6Qp_SD75SW-yGUE1'Q&vrMV$ZdY`Gle#qU:lJSkRnMi3#/M(Fg>dXO2_N$c'(ym0.r7?X,wF/sUKqUyCk(ujLFK)pa;y
 Il91&+A#sT/fVeFvwz0/elq2leiA+fR+-yLvTu6qGTM]Ep2pCb[f%@P:5cEV#w>`ilvNdvkWtko^i5``12w+Bv*@pqKZK:+H;,W
 g@CK&tU^PxfG?Ud5d3lV]j^-D2q/d7'Pfd=L_h<t4Gx#jEt2ZAS:xF+L$9Gpzb]e35UA@2=]k24:rB@1+V]7M[CXa/ajQ7$q?7z
 OkD[:*.TjV/pS^bskiXUY)?KBF#y]L-vo%R9`KQagOSPY]qP+qo$.UIV;aaLgI'%UCgRA/QIKzpK)k?8FxZS]Ps5e/*F'*:r<Gw
 ocXJ&q.p(HOMOe0eSJlycSk>S_^UKfyw/t8DIq$p^QD)oAZ]_3rU<B,gzNsjB-tMVKfQ^oV^z(X.F-<m8XJ'Vh7f=ujzRe=C6Y8
 t.'TEaVl>13L[,p$A<@yY9%>5tV?C8y]jOkjxH(hKw7P[Kgi(EW(>WS4aH%ZhoC?]H4sNbkj)UsJoub%Vg6RWSNK8*_ie-$PnTI
 Yr+M,u'sQ*6yoBy=6Y^#tKz(+crkcY8UdzKu7pcHHvCAeiFV^I7[]Je`_Nm,#OcOVW#O_pnNJ?D<,I7jvvf_jsDXQU61Z'GOBr4
 EDi8gTAzxYM@5($xB-]@pk&P'fg]Z*[v0G]UI(oMEB5a]So:JzB<6V<T3d'sQ/LlDu%mUA:ZhrxvyW0K&+g]yomTs;L]U3c0m+D
 vj=FB*#Xu_`=>Wd(axIWEk;2//[AU<_Ymslql=+ple>*Edk+N(+MgMebNR2YNYe,pIA'LfF7cv@jQ_NZu=5Wgyk/<aK/6a)Xri_
 NAJ=9D@'Z1g[d9'MTU&^f2t`Zz,@KQu/f>OvG_x+Az.rf>ab$Bz/k8lrbH-xgH9zwtTF@>'aI?gQaM2^Jx&Z;?1&ML>/.0(2oaO
 9)z_@r@Uz2'ihKr__$]O=-Dgf;W&8nsj$=].RQ&F'R8x/h<NHgu>y`O9r9-8YkYus5'Csp>'/KK;R?7S<*LA#wZr?P4;hwFisj[
 ,1A8yq#QblHp+D685YN;rU$ol^qz00@xacrH><^4MR1urlnz7S]x5rKbxaDw';8=/XKw(A5'lZQs>[-J)7y@6g3n$UFqY<LK>-U
 a&;AO?+XuuMko#26q.wFKr^?#SYM.4i?3r[SuVwYE@ruryppHbyR6,S;&o2,=L0$s_g#QWT#ujwUMr8Um(6aL)C6I0PAbH)vS+^
 ^O[%diYvTuAHS9]E6V4HTU6A6Nk-npmP1Z;Pkvq$GTWa/*s%,1T<`p>kj'(OBt::Qr(Sa-VB)E'E-@s2)AJhXD02$<>Cmo8+uFk
 C=MZ2Bdr(zIUZ:4*d]R-6L<>$g_H=GI=ai#7(THH[+[omkmri-`X2+Xp>B;Q^Y_xC&NRxq5Wew]+PY7jF3,00C5]Vl'53'0z7SM
 $Vmr-Md,:N-w#'hXlRyjl>O%kej:-8&H49CT&&f^bf-x5l#yycTIEbH&IrA$wKIa0hO%;^d'ad1#FgA0ZT8M9q+a3zvbBryI`z?
 Lr:<Dias%PNuY(<bVO^)o^'8*KzW9>E<&sM?<iHvb-:cQm>:<^(_v3tWi$TsFc0e;YV$]5ICvFKMJHy=<RM?Fj?jV($:V<,(J.0
 gTk032A#-F`l3B5pNy0yU,x?upZ6YPQwcMWbXI_E6rXAq$B)f.AD8$6TaWnsucy(>h7]]3&LNt*T/q?pE0)EU]A0:Fnq9?.brmf
 ,0K/oQbGpMMYp`9Irzcdxk^5(RZdv@n4-Gjy-_L]7*hM9z?U;Hg1;=hPIFD$8GnJEPQR6Nht4,=F:WG]+Pgw20hH<6u-zP6F88b
 EG?+TyF?1w2_66`W(N7-(Iv=]&S&H*gQ(-SecF7'>t.HKp5K]J6]M:J2dnbe[b?XNi0u7ML/lBI4H@4aqxFLkA1p0:A)Px%7M./
 rC0.;%.+zs0*5^.:+_`)2KvPWZ17ZIMp_NBk)iDB.,$&;P/%0=<y>%-cd;;f/(?@`wZ5.).8alX%#g>8hUD1ahW.=U5;TobnHc3
 PhcjNQ0)y3&3e=DOoo8<Nj=wY^P,)r);h-UR_z'j>e2/Ke6?ppZWbGN'-ox(`i8GbjgoSj,wdjDRBJ+-x%*I4cn.7'a'ghJCLQ4
 ;Gdl9M_g=K8cX>%.4T'lH&j?jEfGl*.t.M>To>^dl,B&65Lw*gRYT16qKQuPMS)fns*PBP:oik@#apR-Sk]LYzp>?u4:oTNevVS
 KsrpeSTPd/;eD#)vg08p$sAwXXFYf(=VY:3ns3XB#=,qCviX6f.?rAAY`QEq'^2'MJ$>?t--BQPcXZDY['[x$w;L@QbYw:wCh,F
 )h,1y=wbc:u$ON)OqAe(7=/JHO_`.Wuw#B@@+z=..NvDX75^)Xlb>vB$BW8(b,T>%giFW^B$CQ>?3msc(<CoW^rZ50TDIB6-WLx
 9;J_ULY1LnDw7MO.Z$VL^wOmK<a@x.Vm+do0f5SbpLnOgB1gP8*ji9/WS$)WCn1v-X4G6@0z`Jx#,A]W,yv>d*C$v=U]>W)3TtT
 )1sEXwb+aHA4]Kq:xsYvT)OTmqk5s4k9]c>d(cS,xonLrvN[fUVvSxa49AGV;Sp_P>K^TKIK@kI5*xWJX6S_3$UI)L1v/33XXJR
 zrt$;Szj9j7i6CNe.?AZdjeO(ZPiD%(5wf_q<9'm*0v<?9<K&,_$BQ@rMt<4R<u61,qamn:xV.`V>4]XIul9D&W/[[Nw#9w>v%V
 TG(-XXm@zCPtaE#zJ0$h&N:`S0R2afWeGR%2/wX9%X+NYUzc<XOn7iT&Ay6ADy37L6em_dQ'.Qu`m]PZjCLV;bT0z7*F+aX]eIK
 QC.EH'D/IfsF1(M4?<haLLM(aak<Hs9RZ[%QsxNfM%b*'5GS'@#YS[$Y.?Ux^vdZY:S(elgXBhwKUhzz<zVFf%Ws=jf0bq,^mLl
 EO$aO=EbS(khHS5Cqz#(NOnf_O<J3JyY3wsr&voXq+`VoW$57gD=SCff]b@?1-+j^?R/SL%%95:&gEtuLFX*v;5U=fCm)Z%qnP)
 80#16/lX*H(p=$L'88$hRN=#$Nxv<g-$^*sQ0Oy5`C)MF.WD;9X_.c1ziR,aBb>J`['B+4mj**NV[k6^EpEn4AD-nV#kE5mJ'7e
 u&iQ&uI>LG)OQ.[??J%.`:zB`x=$w])&]RDZaWl2g2L:'XkK,d'TwN.<upo_98hONId]uwW`g,_^V+3>,LSr`rmn'mfgCWJ.j2l
 &(HIVRDP[UrFk4x`u@S>djpxymE#4%T8VBeih7:kieh<x@8PDVKuMQSpzCOh1@1qRGr^/_?8,+5cM8Z*gxvPCSYu.%</J/s^94=
 mT/d,%-0#Ec]O$y*PgWssspU%gaW5kO]3TpuX]`r>t$9uvTlDv,Q^r>bXUp0<rlPG`2bvJ.Bj&'MV<5892%IcV+mt,6qbSz1ECt
 oAv#*F?3,>paKQ8T5IC'egn8,Ad_m9z`au(:604+U?xEgXbd*=UjMJ[NdkDM`t$o<N8badhkfDUXdIo+j6<@'R'd>-JMF5&,]=V
 5x&C/B65/CK@@CN%7W(9H:P=a9,WCl8ydq)lik(,iq#]p*dBzCWt_jk5vR9w5;0W,:tWLSYYq]KqHU3HS+sYnO9_sJL*sYz)_oA
 NInpDuu(u9XJIfAySkZ*?T,b.:D$1)JalgMD*W;pz6dPA%/E6rjEjnYB.s;3'`+39yv%X^UJTbJACs&qm.CkdW<aB6zYqyD;Szj
 <1*1Q&di.>L:W7kG#@a3gxvJ)_iS*]Se#W>5L/5=^+<iKp$1_eQcQFWhnzf3/ASxeWC,NT5Z.kIvf9ax04u<r7,Q<+6'6YmT2)V
 mCdHRahU2?nubUgVk[0V6/-J8/*dn*slU+(8JW3U2yp&Ec;e^/3E#oCcz?XF6i<3b>H%dAxYwh??=_j*_GICI>e`zpE(r5W]'Wc
 >&R7@RdsZ+^:p8NgDWfi>`.c(D%[iNAn+2Bz9$[TB1Tanb6*ctzja0dbiN8zWnsxM#1jL37r7'dH+J.g56R5bIz.6FWln?j]o(:
 h1Uwpd@U7=]k9i<^%^VR6xx67Xb?&W4/EM@8;+G9WWR@iQ>B*%DhI(^p(q4[qbWgs.NZlr+kRqk2HgYnENJh8dHS$2_ArjqG-CW
 (Zn2YcsfGIGZYuj#Xn,:mdyQH$M?w.*qdazH%PEwgU.4=Zwirg)(tHkh9X1TdGpH=V$9FL4p](jx_^Aw=-<CF#D0)TOi#Hj<Q@#
 aPR0r,:c9p,72f9q:@MBicC*hYH#E.Ao$:_/udmw@X`B,)J-.%$%P>T@vl?^cOsmIm8QSgW+ej(uxsLPiN:?0B^%RUqhAu%CNkv
 8aDFufx31_ZVBhGnX2x+>J5hcUpKd'F`*X)v_Ccak+<U`9FGYJ>AyZNRC++t6jrC^9x/'5Sc?Zu-(XM`:<GZAD?wMxb,C>mWM]*
 m:MD#1(yZ]f6voYniw/;VKXgwNsrK=KpE12+`f^U(<Rnk:ya_pXlU;H?mTZ,dn4AKH+Thm*MN@)5eMSY@05obyVba((vPt6d/`/
 FB?^av.QjhmSx&3Y3%RfogZV=][(.Fle0oMp$ynEd4ryg:j+E6?nfl,v>IZN=O:4lZp;0cM[Hj(z$/[a.Ao1rXoWMcN;W<83'o1
 Cyqyb9Boil+A]#3o&eODfa?86>Ce4m`y8nc$xWBBkfkP1XX`U4C&fE&:p@+*0@,Z%B*uU(#)S)DvB>NeYg/pliY0tsq@qWxER+p
 +.ILwrB%N_;?_MzeuHLeiZgkB;X+yaVe8h)sr^>,ETifzNW*Hqu$zY6<wdYbP#yZ#3QrTRGy7Q?3RvjZ5UISpLB6&EKu3:D%B(O
 zIO4?P`$-YuG^(GnXf0B/#%'46y<XU@zBWXQ<iz[g5QgW&nOlvQgZ:Cx)Kh)i=[.G&qyOu2S0y+PD<yiY9%dip8^6(ZY&'f544z
 DkduS9/,t[k&Os73a>Es%ndupNu4K5@.&HFui>7%iMTLDhKxw:P)Nz>^ShCMF&Lp)^zXbHATr<2<NdJ/VfI$%)ye*ALOd+^:9o'
 H0JTx-wl2N4;N2Qbj_:5HdQnM(Xq9*peK]7Gcu0>*Z<a+GxR.YFv<2h[tX0v0t*cFtsNp(6xDK'j/4chFVqcPZXsEaXi/-=2)2[
 Fl`8Scww6>M>hR6Ui9,)U-6lR),-i17X;(yD*/n6;-_-hu9u60QZxrGU^G5alSsKd]sNJM(K0av_YPBj50@:4Xk)''`u*MToxf=
 0aG.x>K$vs00i/HInuc@Xrd]k]cuUd&c'IHJyQ6nM%-'(UD3Lo7U1JKLcT8u+py@pnt#Ac5DUND;aS*Bt?s;4iLJaqjG(uDBH=g
 8P=G69F'MuLG%%pD`m3<CF],P:DM;B>jrmKAto>n']N-S(6%tX7,K<es%lmh[4H9sF9A)siwg%kT?u.G20Ji@F6L3;qpc1sW6C6
 r,o(r*B('@es?gtC&wO.1`E_WT[B2^yP^y9`a5+6.v,ZJcrh6Iy6f:cyV]yR`<Sj.^-$jm4,jzum<T<Aog7TSspsEi<cvYjR.=d
 aStRzF,6i<h2gW[Z=:pU*N'HQpJZbV*gxH<Lh+$mJ.hFVj`tgIru^*x(qs4O<p#60Gk>GN:H5)=sM@WU<.YX>n-o#@uyTYF4Pza
 <Jdw7hN:'WQqFO6?bpF^:fcAkt6U):v#HBmb9?O=.dpN,mha(LX)X+,w2rJ?DAR$0RS*58E`et/AQ$RZTw2aS4364v$[@jnGv3.
 %,cRoOm5>_.eB6siV09X=(<O4<'<Rw3//5$7=-Sp6sR7rc)Kz^29N9`TZ3957Y.$`aDW<XuhGis_z:*rHV*SgJZ3WO5diSWxHbN
 ?:5gbjd-+dJAn:wm3=WYN0O>[MZ7?gU7hgj$9l.b_w0qZfMoR;tEZ@kN^F5wh3nPcX?b&:xNb6P%(*-`bhjJIEO5r]hz'5.HCC8
 HIPI5^R-Ild^#]N^9meg*]$:@j`MopcYANl8@M#6<Mq.[P?]o.i&sp5z+5SmMcfml-ob5jwFM)=@*5aWQxMlc@[Nc(EpoNYVbuf
 ]SRZho))nz7S^f5jGf0x8=mNIhL6AY0UpLrBK09Qn?Ir1&GC:]ANJQB1Y[g?4unji+#P_iZ^8>J%0Pt**tTS5^[l2G'LESO_Gb&
 ?tZi/Tp1nXDPSw*;*f?,vTh>nyyU6l&A;M&+oB6BJgNjEhi4^/U,g@>,soB'J#jtr`JW[vgCaJ-ryuXPA<X0Q0`5CRg:>UH8H_0
 ARp<&lN*-Pn&l@XYT?#wO=MI]$rMJaAzRc7pJu%Ze8V$#g.V1^>$_,o[rnU:Cy&HhMw;u3TpFP1YxrvNGs.WmPCrB$N;b5L1-'m
 7>4Wkg=:;b)S7#6LFjM1R(eqT):L2md=M8bzo)(qD,KQHjseB4DW`Z79Oyj)eSR`d7`53HZP^QEFw@RiP;g?&_GiBwM2/#e6uAy
 g@:RVsU$8bi)a4FST,G#kG*R]VflaSh0[N)SQ7JP,S8NCDQ)H>it&@g/QMvui=doI_wUH`u]f.o)[R<vtFevp3VpKu_k^?nHm*-
 Y#uSL1m<n%+D;xm,xxTxz5f7Grip#GdqfczFuwR*GC=6(_n3q[rj4&(b[V]:Vv`7'4#>Awt37kgUY4r0-#;U)j<vppD;/[q%aGx
 aW2l8(+Yy8'Tm69BqZq?Xwt?E7*)M'ui*Zs^@oxE1ML,M?v=cy.YoSS667vC8$z)zgXtGjwW39u:sYOYp;n/.aH9g?T5C%U&r%9
 Dmezm<76MCeZZXwm.Xj19047xS=z;HF*hsH*[6t<dLBDL5iznRfGyc^s9YeiZ[Le*omb#fy0OWO7*FzNoInh_xYN(*S[n#]=EC7
 qd7i7ykDe>w@sc8yILgu85+)BJlCn-ge2kt_m+KvY)Zap'*8(YH#ob$tl&K2HA6Sm]xG:vN&1328;_j%1qz#vIL3L,E5(R^wWvM
 c_lczAJ*Id/niT&u'1T.0#S^A+(H/3)5(R$v2[AbgckDJ=U)BO]PP+j&VhZE(2Kt;T+;L0FZUE&LWXQsd1-P>`wwVppwOtdAaW4
 &`R=_rTu4:y9U7X[MY/DWEoXs(:4/#uA8]l*[u7>@@:=Cq+HIwO&ST<_5;v/AGF,jB>M>0?s]P)E+UqGNinvd;]A&J#eo%;o2&e
 /Uv6ee6D>-w,IHH<eB%oacjmC$g##cQ*NL(mHopa0^=h<J*ty41*L,b/<`q?ci?<eh]URSw?1pgW)jB=4j,U1XfqZ*fz`mr'LzL
 FnQX4*rMtFdWQX]:5QAnFS`-%h9;Ja1@_a8BzZH>]5KwZLoKOdbY6_Hkehd1Gg_AVCG[*Q*GdDodkqLfgcPDVV2@v+U8FjIc=Hz
 r-Ec$y*EzI)*EKBLgkE%Dm^Y#TOINbd:6Tld@nTVzAuK*I>=ryqTn$[i8Pe]nuZCePk=?`d151[Di=_T_n5-v<XP&;[dk^a^dZ&
 0Q44Afp/v;V8dgpm(R6x)_2x5.aREwxG/8k_Roo.XtXgtmAuHr^b+*;RC'mEt>LyUn-Om*#eH%V2J%n[<wouWS?^mNh>gS^nI$I
 bV_OJ1K8,+Jd>`F=sXoOyl[*X3k)WXkr0tSDi]ZyPK&nF)y6o=;Et;x+TX'Sbh9i-+/FqyynW5P;ItvSMJ&`K-Z)@/+gHh#&JZl
 F711lGxzP_CXuAToZun=i:hA:G,4Z&Tfs>2Jjfh<i`-Mie;*z6:6FnX0K9b[Ou=[>+zKos%^bwcO.*eiP?UvuUAY:m_G4Lc`R[j
 bq=?Azu7vqqDXbZ[7u>zhV$R[mCuf.<o/fD]pQM6l/#[7y067i-xo)$%dT;kP_6ej&+;QZ_y[Z4Ww'h@^&5pHSK5,Pjo1sC1tEr
 0XQ0.noNIBof(:Ho]cEvwDkI#>WQVq)TVg;]uhG6Dwm3?#KJLBcYKxyg_SPi$9-h$g'cAla3i*6fYzcy0xJ=Jk+9t<b^K2EH#U'
 IzHY(Mt@w;&X-yo7ifLo^^.p.-o$s6LUc?%mY<6N'zFXq#VTP#%v[UP'M1Tiv<)?=H1v0/o>H2FAE)HU2q<5(Fb,`&wl6PT$voR
 uZ+q0dS<UUo-k$k9_+s0Sa2.k_3x%*OfIp3^p$?uog0.fLmESE<%q>+0sNCAn3aqfBnfBB@kp+pD@tOr%<]Y*f>,I$3:rhMy.$G
 w-9&Ic5Q^G,nWPX;k2Z/n'&VZoU^zSLp#yQG@m6%el,i0$5Llx$Y37_2vDBi,G7JL.NM/h'^9R.Iktn0Q4'C1`T(C<v3i_tQBj6
 v4nH<yw1SRkN8R'Q'a]t$58sD%uCjxJzBBf@Kj5Z?4w2L5R:Df^CmL?y5H5:?*7m(QB$wMArD+)pbN0nh`UO6)jf&BrpM3^-DK.
 Hw_vuv?thV0qTHDZj72=4rrG$.N;SY*+LT@N[O]cV%;.n7F&BTtEe(x1'UElB]@2XfOm<PX;:od&=xx=2Os4HhWaW^PFZ>Fw:F5
 jgH$PXKSId,wcC^'/K5[m/Ypd$K@^DCgj86JY:>-ag)nbU[lhh(?pT/3Nj*K5j#DYUm),[6R1'bCv=n6Foy;k:YZ64;Q$eQnh67
 ?q]'?cWd5,L@lqaA/)47%8Dp+o-c#5oO$a&xDBy1&OT*Z?KR>wFvEOhmVQFumvO>bu'gBvLTa@g-N]-I9+M`hI9zFG61[9]H'hq
 VF./+kPy52(7IBHicOFrnESf>D]JWSeLLR^bc.IA$Onu+GI9`yhf(c*/6c>'7a+aa#Q'mum//=T+dknmp]Pa0FF3i+Wl,R>dsN+
 oqFW@=D&1OW%d0.ji)^@=Moa`I@7Bxv%L`.j.-fy4KROE/%XObMSS=Cc&)EPc$=cw$tDTonC;_vN6tSq]zsX-CI0_+>y;``C$`.
 5=:nou$q7kzO#3seCyo4`p7s?NaUQNF^I37e@PwP2+8D6*SC(bHRoO+`Yv?PcYK0urwO$#fYPI>R1;HAeWK4_@A(rkd5Ra@0Isr
 =^3GPMX09<c5krY0Z*PuUqnq*T<F80Hi)i@Bd-o;6DvXmQSBjYw#Q8U%[[;yWAZaMV@u]dbRX^'KNOaISDAR*5FIWacuw@xKK&k
 .aOdgOqIZ:(PriKj;w-9%?($u]i:gPzo;yAfBf?tun;.y4m(ia<]@pHOD7?@mN'TBTvTd6k)5nRyQ8@?zcvz`E[Uu`M+8[S;0a=
 ]Ec/,?O?]JD'Xi`iIV6c/rSeRJfg?'e_w=&>AnFl<<9Lg0<p]4_cc%'4yZeN^kX?xr1C8)f;L@CkI6+rYgv:>;TXu^Cs5H2qh-y
 RoxRqsc`Q>;4&Jk$AJGCKw2]zJu?jxeHk0y`[=<BQmzYz<i,lTES-geq9M-B+GbDz'6WD4xUKJtJ=]8VV2k87RSt=+@55::cIdb
 %WR#(;rFRc(fV:8/>7,mHye2ECWj[Jr_=.%Afq>4#9OhkAWQffxC(b`6PQc,7?+R.q]eQw3%7LOX965eiA:oaLRO>Ar.r)1s(gf
 @y]E;.A*hD$]hw^8O3Q+iZ8H<-vgz20*2o*#L/Kk+zR2)?`_j;p2qU,b[du[gi1'L,PLp;m9yfSjSdCUvkj0s,b8R9@c)9N.,ml
 G[Ucnz$h'0@;%q14&s4AX/7njMw23=9>:Q?Ei:?z;a`m7`E.rY496tzBMy69[efj6(#$o>rQcR8+5#=)3%Ik-m(w9sHG[+&GgOA
 ?ZfA@*<zjfqq)]1LC=A`_P.Y7%YYs_#[Wvq3Lk5Taa5d,BI.Um:65ee$_[wMv)XXtyK9+*l`X_gV)guJQOswPeGx(AQJK7qT1<-
 :czwfmLhUxa68wd/V(A4:$Qk05K$j%hZJDsZo]4L#r,h[(sWd:k#V0FQ#G$Q@@+b.dWSzC0LZCiN*(`wT.DJ=/ayM$TzxB<7`Uc
 `m4%bB;f,<K$9AT,%@IOLn&M#qo8gmLNVjc-DTWcqnaA`'=H$6=r^WCq0+u:1VptH?u(cb[`>@_F4cHIxTXmlwinX&(F8o^7]UO
 1g%y^nm+1qG>:,E#-bB$_pf;DzY9[kVoAMegI*'Kpb,se6Fr]-v@nKSoh@wkYA1yJ4s<tJbOTxF@bjYQGM4.7b@a4stLPA=kh&j
 +S]-zYFZND<1f@dJH'+y?a@7PiG:<O[]/PvtsoiRSVB@/]K&tj?qG(gsEIEADdJp[<9q:,AT3ao7E0uM8n:d0ZTg28>c$H$QgD)
 biJaE,WMYqpbwh(cFW&IC;?NWdX*w#Fr45s9KJ^/mkj/cr^6h?0uaBw25>M)V.m6/v0DVY,9D)RD6GI?O)?iY,:QDz_+sb'>x8[
 5ozj]Ed&o6ch>csUts15N$_kDtiHU1s39K<3f`+(G*x(72b$UmX]JXw.C)y'N[&`F>jS`c$-<J5*pGGKJl_:RJ<:O?T04Y(z`Nf
 oZ9MT1c(8$ftidaLmLw&O#SKH1f>0%M'Z0ILY(BDsZJPfV'$Y:beQ$[xbp*gw$#@WnW<.?,t&nC,7-r]mxjmxwdR,QCZ+uk?v#:
 MZQ'sk@R96iD8=TD2_/,v%gAkhL.[y5%^4/6`rtrsXI30=D2A,q#4j78j1&[ZuL]70z&,cV/FmopTld]HLY3xsRr-F(1@Fq/TAw
 RR-HAzWmw@/^$2m(IKgHgSzJm%?q]cfY:FhIyVfJZZ@BvmtFh%vY^_,zzAWfhEe_+28&Wzv,liX:FTRu9Ke-Fi(v4KQo5Ag$slK
 SR#?P3c*=3Li,^v37?tTt_zde8/qPlY=%x$6l$L,zKW7Bt#Ss'GYW(@p6]^0pM6c@aaO,#$7%O5_;.hp298F2iQ6aO2..q3yc0.
 T7h3;JCnBb-iup<Rf^uV7D=#MDb`R7yn3y7'gg$<XdEkJv0rVrx005lu8l>P@&i(Z-#/$9LbShX1?qGaV$k4-'=&Cx*aB,wsn;f
 xruLD7aQ$hXWh:7cVB)kn_DGL:L:WH:9@_Q*Be.jv%H3;-,4im3,kbn_G18.&g9j+EB]Z(Q*&9j&Qpk27$^DX9,6n:ZJ9n0K8OK
 >p?Lf6af$6L]SXro@P8,aGPx`x3/SC?1xXv&M*Uo>]oLZXbUx;mXl9<F51KV'j8-/+xm+]R-G>s:U`0vV,S'nM?fBSi4cJU_yk^
 IvvN=]X9e%nx*pQ=n<]0AH<^K<Zzca2kdz?xMJa,y?,]@,a3M(IIae+BPO03?xex&*[7g^`R]wWIm]4DU`GL9:IjQ-'<sXY+Sqx
 R73OL[<Lcv6_';<Oqlpd<,1lJsVT.:-np`3fF>&9(&ovkd>+zxGzh[8)#^6]997IgSgkA,w'VYH)g[;#98iP=uk7l?M=BA;fs.4
 B5^gtSRI_^YNQ.$<_i,tW_1PoZ3M'a)<Nq(-^=4jU7jvRGl&+TdgsxB^zn)(XCbX.[jqJ>YTNHX,+XOG'vWIS:5T2CUnA2i`J7`
 uyCPO.DF)$xIo'9m,TnMc4%Tk?8K,9&3OIg8I@@7eH.&y1E>s+t]GPOT.CGc$b$c_@NWJqLKg@zy5^_PO9C9y6D:gmJ=LpOtiQz
 Jp/I8f]D3UtGEX7f7[^)_Y&=I7'ZW&Q3V0on,9e3TJl#B9xt45pZ]C5JYtA6n?q*mO^$OWtk=BQ7BZZ6p+n%mPU@U*z99w`'->(
 *&3fXLbI)juREQmjV5%L=tOH,4rKX&;vK[]FP$WofbJMyY>a0O'3ZhTQzNR$bv:9QNEQu`B>5>Exz3QzLgbXbB]Iz-0WjD%UgXC
 %xZyB2uJbLBGXsT,*#03E*QR?-9UVZ_B#.AnV,ASSr_^If6I'h[@in2NEt-]p]s=7$p'$t;;>Alz>QdDRbj=.+<1V.KlwEqfF$R
 a]kb9QQePb)l)+<YVdm`U=/`FBdWmy;oDho@ETX(r#F0ALPF4H)JJIwh`7x79Al#A)L0lg=Dm&1x*%V?X%.]bEE`ML^yE<(5*vZ
 _ScH=V=d^L9/5S&[g[ztKf/lu4j/Wa5QSlpR>cvLnN=YG/,L6YU;[wQeKX23#:O4.8l%->q3%R-S(D45=tWLJ(D3l07F:y2)<:D
 z`q.d`egVXy'BF=Js#M_QZ)WGH%J$`e1=LzA-m-h:W$7v<ky4@,_O4t6`Ph2/J[GqC&4AMuvDlhG%8N$%ACt9O-$Fa7CEg2r%Fi
 &beSJ_wH-BSZuvUmKNWy4W%=Q>^;J$jLE,4Z_,hM/^6Dt(6#*LXTdOm9qcG6bJDhcS[V;Ler:GZysBzAsOo%`T0:gT+sSAjw6).
 v_y6gd'-kvz)[y$C@33DYv=t4RzMz(be.h`]M10Mj^$9=*n(-=V0+2+^9o(3@8,P:#7cPTO1%:^O&VdG0$IH@a]n@e1b[?%QR(d
 frX6>`kT[f3CoYfqMu=L@cz:+3uU)g[qMvXH]Q4eaHh`ua=?ZwHRyS+Cr<X&sm,TGwJI<VkLRcwcs7wnrUZ<WI;)09$r^,+kGJF
 /?`AA]Nt32CcUCJ;db7B%KBxf+8SmUqa@<&_^Y,tBQ=xvtCF89rghT^Q9Aerv(tZNAseEYddNOt'R%o2i?1pmkk7Cei-9H)Q#Mv
 tUC.uK;cN(WJ5w[zqGlw_F-a??>g54L;'1+xM7a$5qe'=vx>N*^ZR8x%@(H>:/8_'pWxQRwjqar)Ni:1i8[LKnAInT3zv&Bp[<j
 ;owszRCs>E)_0yOr5(L`wn'4X]I]8P,:QXIVJ3?R+6v9iWt#h*#5ru-kQ'14[h=lv=n+h=>p`l+Aqu]0pbMgeu'6_<nADQM'SJo
 6]l=96=4HKQuie1u;jduy9D*h2x$8J:lk'tB0Rp#Od5vnkf.#gi$uj*V4((@@79Q6'G<r@6Jyt%+jl-#jNdV+5-*WmADUr(:)3C
 @IiPQK1<HNgaZP$RHo=FE*1ktKJf8#rj-m1CY'bjvX>B<g/#s#EZ?t3o2a&glvAhbChq:%9JVs%qZF#zIo&JVfw]pT4C4dT&CI:
 EmK69^=B8'$YIQODmMDi=:dXximD#z?GDo5_X_o]0m[@?v#NV3N%v,Ae2y5eZ`lqG)E`I/FK'8qGocqlr`kPwAMz0Kzk5i`N#=j
 ]4Jbj<P;8KwE#;tM)VrUXFYCLB:/@%ofCK1@tuWFW(;,.tedB(N3Dhyk<VPAh2d5%Heq0V0#%$&t1$0>PJ4aVe`iO=[ttd`^'r0
 [[_Enko<ma=4I;gb;cX#XUzPn[]By@E>L@F7haOW5d9,br5`+j6.49><Z9E/ydEo>>.ewdc#Gk+*/s8^58xLGFIyJ74ce1cNd?F
 6/D9O.tk#UTpO[wmaaeF'K_d'(q_Hgf0xv<z>N0a3r69(M^#%c<OW>GyE<v<,l/DxACy*R*V,PHmaJKB;V8ohE=;MNsm.aKF$LO
 Mcn'o7pZO2Lm.C9.O]vcsF/)(;oc0gn3xanNDk6q5v^W%5Dm[&xCkQ[/%SO)FEr07HE`5)pJh$O.AT^awf7[)72btgb8=+ooW*k
 sOwK<uYRC&d*o1_.+W&2v6m@6EN]'MZ3:s-WS5:DvncEC*-A]vylCJCc%1*',J6H#Her^SPLl&d7_3-Ie^VVI/`H)ATj,'W3'@P
 I+B@O.s369QpJgx^f/Ao4fEOMJ#.,r)N&L^K9f+q[yl;2eb$+DOfh2wFHy]j<l,<04XZ:t(w&`Vl1(Hv`%`XEstema:#AV7Q504
 ,56JJldB-WVUg=8]s[#Fwoo'9AD(=E2IObhXe?qbh'yL=]]`.J;fqMGy:tC(:2ZbAp4D5'G)U8*#+LHV^-cgwzj7#44x*zNX.x1
 CFkH44LXZoU1'55:#-H@WRQ_NA:,*bh>0JR19BIa()DlI34EXCrQ)4aO*5rCa@0N'<^qvA?a8(ls-d,';Z_jB.tn%:'h'raNs+k
 rWFDd=%5P./9kO'm;Zf_@Rk,MD/W-K*]++Iwz9RvB[m*j5it@BFRy__/5m^uN0pv9L4o=3aK]J^A[(HIQPO?#;z1o`TpO>]dDbk
 H4z<*xIPoLP0#[stE1'pcKR$zfDX[XxYz&,hL$6@g2l&)[*,i=/tMN#i_e#5KxJ&=Cfk^0mVDgl*5H#3;J#PR$W)EukW))<'kaa
 ldYz?Ch6/g/H_tCzzPD45?_p0L_4h^WIkHgg=X0G688PQ./d[51tYce];wI@^h1fb`AND2a-K#x)3Rq9O#(L[$ok1I&pcmSU[MB
 UFAwYUGb$>pXNJb;4N`RACR,.>x56GTfyCn#gXMv9)FBK&RvV2IYvz01z)[zB+jl`>?k_MlVz-q#-V+1e&1hltH%I.>.><`&.5u
 [)8'JW`R9/2/LBfKsk>Tl7Ws@k8fvvgO*[#l=[Y<p4O,AalMFO0&C-Qs'QM4DG36n0s@S17.f>N'J/O6-LZ%a4^8DOYd)RF^lAc
 3+Q1hl1s'Z[z[601FdA*N*Yer#(Z&]E(jK8*]ID+0O'ro/M3Y2)AC1W9(6O#MH)`NBFClf7U;nPI[9H8.=cY>E^#nQ43F=KA2h:
 =o>_5yE+`;]mHJ_Yw,$+Wp0Zuu;<SBbsH)QyTvlvT9t6(i$/niFmon&]fLmxX>+MAlXtZvTq%9a)TM1c)II(:$>m_+vOyGhZOHe
 $5'&;3YMcgy9,6_jz]diVUQnDxQ5KuAiwFu#d^lpt`9u<#W>R`OW/J.z2D+_Rcy2l3MPO<B))ogm$BRJqt.+YiMhx94pc`*'<q(
 ,#94+`]_ro%%0OSZu,9XK4'MYH7%iA4O6qzd2RsjcUZF6%9l(P#NA(6)HUQbgKVthpOldM$q8Cx)iSW`Uv43S6y,r&20G(DQVU$
 [pje(>Wv3i-4KAe-&f)Ec*O5`-.$&zdYy%@Y+*It7_SzZH,]8UV?shX&FX[-bD`Ry(.r.lJHOtyNqFCA_(jZTW$RXU[J9,3B?9X
 K9IX(iFP_L+jp$VYSMI]&3Iy[Pjd(',C4G]&G5'_;xxN8Kwbl4GoOKquh$G&D6jxYe'Ph_UG/=YvCs(;p[[Cxz*SR&c62kbA%X7
 B+6S-EIaW:#urlZ@3g'l)Lbj7Y]67Vkt[`n`]Y=zInZXM+NuK./Gs_FsnGsx4_%[<bUN1_eDTkG2)I+DQ2/m^m34.GE4O*R7RD4
 Q*QHM5*JXRVN<X]i$q=H0dXj'm6]$(riKQ9zE]f0KfkE5:snyEO=EHwRLk2Qu%gS><VQWoF`]*IIj:Tm>BF2mzR38_kL5oNnGk[
 jh7z;hzG[oTDl]>&Ni-[<HkOMfEKayJCy(ta6YzNB2Z/#EyCuR+kyu;.mN-V]?LsOv,_V5--)JAzGIZ:dS3+q)jh=jf3JBMsSk$
 Ci,L2_/v)P4R/VwVoj0m^9Q(2%:V$Bvnlet+=W*o:CXVF(e+V:hQpmKGSHfgCS5pi@`:L?ag<f?gYQGt;F[c*0AtWt`@&DTOz1*
 ?PZ9.$9Tn@%rGE`Z5('HDwClS,Ht+]nIo8XJHNS3:gTY<QAh$rUN/P7e<mYpjkQk)9y(Ri^.Hrxk_%]OUg/Xr%b7U15105T#IuY
 r6cS?#.4OG;'qRBgux<,X<.:yH>UL@,.[%5R6[EfuA:9HC^U=/idVwfIs$am;IF)h/==2.S'0=X)vhT9c<Dlczj3KE1&K`7r#zQ
 M:2eo1WMg$M4dVY$H.2VH5AKo-E3c0iz3u`y&*`A1lG&fIZNFXydaMRIsJ0k=']a4ueo>z5,l:=PV/)gXgtgkh3a67IB*KpE<Jr
 9>wyhR<LPM+sh&Gw(-'/AKC?mbv+Nc1K)GnNe'.:0)XPH7XG'ONc)]R;apdh28so)lJU76k.x7]vUd`NWpS.)[0L=%whkNZ:<]4
 +_%TJeM^X0k+:qcTfQ.#r=&#zl0sVN`m_lvCymWE3':N?CQFlMWc.Cn_vfU(pj<br1ac1V4-=/gsE)J.H14Yr:0hD+o)hn]=s-v
 iP7r1#p3,DznlUUnl>^mTLU4F>qH:fBzVoz$JO#By4uoiG1KuzLO$/Y.NZzvE`TL]ugj$;.iisKP<U9qSPv.VYq&PJ;lZfhi0<$
 qZD@x'SbM8d5/9.C]lGOx1Ztw&()iMnx-/vA<WD9BoRW5koeBiG^t@Nr&ugBTr+9%'q4o0_)tIsyH%:>0]1F&$)<CL#H;id2YgG
 B6e4`:3A12bHvt'r*804O%skP&vE77'_4j&ClJ''r<wQuyA,,IyHY%`Zt,YqY_BE96B%gIVX*=Rm)g7v@p1P=`:lF]]HQU#wHl]
 Bw$OE25adK?>fV>L5vt_sGy_-??rS'$?&Eq>l,,?+'g,T*&[nH9U6YeO5?:Z&l$450gB@j#3_=B>L19w]QQrLInGbf)08zgHf-,
 9n4KlZGeu7r'tfk.yqmWUO6VP>K]r>1r.v3K[r<nX3Lvr$SnE5+lL$@ijXupWXMw''y4,h5bDWkSY;VBSL8Ml9bNu>aC94m$:[W
 1v37*VV@h545f5R`f?>h'^OTkzwmxGF;-mOv5>:IN98<*94$HWQXo'mHcC4xL*upUVRReRc['Su?nEMbY'<;xw<Sqlg@PF</S]i
 VweC;8-=kBr$+[#de24/,5$$9dV4*[LdQrzJW9xBrKwIi0<iQ=3_K:r=+(81X4PIQSP`t8s'WW&cue<XI/z=r(yl9j/f+LO7.m#
 iiksxS*R/#q-gUc@kYbGh>DqsxN6&:fv=7ix-cg+P3SC(Xy@eUzddUIvLXxP29ApRp>:3ZTX[#7lzubus$]C75fR=brB36RCN-]
 LCgmOi?sm5G_m0ihpGdqKKys9g@;fZlXd2q4A_43I/rTDeRtAEZZ/sXBi(N0Th:[9yD0ph`2gib`B)%g6s?4NTV^M'ic]D(/;#f
 [g5J7^*0#10(y.O=dJ0sN)+Uox_bSAPHf3#U/r+k6k1Ir79;UJBK2a_r7;.fVb[m3>MjhS[gq']UpM&vCC>%DXHZ+7,uqO$)b=p
 'tr8(=4:]yXXe&y*)a8Hr-e:0S7@<ni^Tez<eOfO<m)$[A/oqzxEUB;_msPURt[-M*+myQ5s$phSNlOnZb?p.Cbr=;H#4SDP.ke
 tyI4MGB]dzd1M2Gu`gQ`os1kEMB,l#C$UZR-bI_%X)kCZ8#z)qne,SmJqd(bQLmI>'awIeA_t;JONEkK<W]`a^%>pe#w0^sTyw]
 H1O9ZGcDmKnR9zDbx?u'WT6P:=(sTvdg;CnJ&[[Yd$#Or<a)r>-&T8AqvlhAkL<ydNX;8w'LtFZ(*CsQG.)`4)PWU)X(e#l)krq
 0l)6-E^*cUmpSoC]DMUBOV&2O?LyaN+HA-F,l%^)LpI0Y`5w-X]e]RA(DuVuty$p6k[&-tmQo5LW%V8%wNA5quESLIi@M*N]9<X
 RzcR8_=alvKM;N)%';AX]J.dRs;KrOUSEG]CdSoBQJK6qQ_e_]>w*kVQ4tLh'369pcf66[zr=o]4zHENNo'R>QOlYd]C3=a'^2[
 U_p_37HWShaLi*hHpm9$&rIs]>QEA*[)/kVfC$#0_Ikh5iXTTw>D&%HM12LQG+e5ToMZs#<XNxk_@O[kArGeBx1P)$]cbQJn6Gj
 )5GL.JrB;nECX%))Jl0Fo>y239L,w&XMci5Q?Ile9T&c?&U5,HwM7iT]a,;zf4Utw:hV3HU[[nF>-pFBz.M[kO_V@.JP'R<J9@r
 iTu1OktQ/'-09g[W9gz$,j)@mZ>-.;I7)_`)'04&z]Y[S^)YW0YEz#6)<LBp(T#F>#XFI34?A+C7bYM/aUCHBX5^waT%vCerS`3
 kk$iH;y[n)INp^1.vt_9:UhM:C=cEOf5w<E<1NzszWgTfVq4^jy%C3-L1.]=-<>:KUjKLL4@?X^/$$_B`t37@bS''(<%cxP%6x6
 Z;kOT`do&#W6?qI'3rAciT,HO$ATw3dT9mn^w]xPq^_``McujaUt01)8Wq.aO%sUwKci86ycdn-g50&JwW5,YY&gB2Uq$0Z=v&S
 i)7SB'Sy1S]]=+b^Dw4<SS7,Ymw:`(8f4L<BUTxI:3X$.)9FeX/6j@K;y4Btk0]v$]ishr[sCQYC.g9yET,ggsg3y$bcsk25_Cq
 g(2iGw>t1hYTfb$bb=CGe$%.H<[&OV@T5QWj0%e7gv47*712dc#0:g/*'S]'?gF$t>2nW'?P^$qVD]C2(Wu't%TDd1c?.<b8v*U
 Hhg5UNJNM3OntGQZA1phG[pzry6_VB<^U=YP7723sg*eX@?c_h3dcnC.:w%-0C9n(#P]rMvlW-IN$#OIgq)Rz5<bSd`n%h(K6dE
 w$@^lJY6o3McUX(q[PV@(1p(Nw=b*X0mr7lkgZl1GEF3x(%?MV%mCK1Nv96ad6owZ9N,6IBx@25lLzuUe0=,ZRUh.8-?Z)D'ir9
 fV9TYqA8It?SBq_?7I7M(nBx*WpK%I(205%Lrr:1WFX^3-,02x1gYk4HV>jTUt/,ZnZKg2k^0`gpXU_l8wXmGJgoTp$Wq-5ai$.
 9`5@,f_nWl8d3iUg$+E67p?Dt@uavc=ecStGQRwFhnuv*L;0]qlhyoVCv^Jnfz7MI'(lDyGE+.S,NbSt-_P<pzPfoG?m[MrFxg]
 EuQs+CORZOT[L#>Gf'k.G<A7tPd,YoOULvPor:5Kpt?=061haN::'Q[;RFyAMIz<Fs_92k2^4Pi4,nVe'1_C>lRlF`eldpzqq,T
 koggNIPW]1^(6v5pK'[s`0vAE?I1;8K(P7qPfz-NWmMvw<.o+VdqeHT[Lw<[lY.>;cR]9DKv(i3WAYK6*Eh^_f:*u3I5;58Tq*'
 At)')*@OJ^`eVs+e*>*^)oR*l5bhbieb=,@+-Xz8vXo`a8Z$'?LP,04l(wi)irgrU]+:17PL,Y7KxoNV2/hR@sbLa6_/Z&JRuP>
 &RJK&tFZ&?2[fv:*yHG;i#,B)(HIc&^KmNTjRSm#/MZ&+K6sY=)Ni=d#TDw:e]Qcs*W8A>Y/6p3-z1fGKxmAD66<td;3U,#A`nB
 -&>X]AzNng(UAc5uK4&0[7B.6e$KTDUmm&FBb1*,(^=L^alMfcsKV'fm5aXhdMW=:.CbtKKVW>Y`u@?2fFyy8O4mXDF(.IEFOF^
 D66^;sA[r.PM`*rdV7:0r-uKv?ukE)3k`I;oL0nAVpwA%C2?uKOy^+=]E,k=gKY_xiECh9:&^Imr6ujvNr]eO['9$fCjE*Bh_Q8
 bEt7+HHc@5ibM#2:o[$9tuMRZ9v))*UmCb+[[Eoh%ZJYdX<3`&j`y_q)P>?Tnx-FTHTp.D(aI+'SPL^5*IBvVN&pEVlcy4MG2Pg
 KkhetPb)a<,<-5`p/)RO;>g6x,SUlBpXo%oop)thvj9i1>M;8HO[<$y*L,?9k&i@C5t4XjnfUX+pm`bHPPXkblAluq-A64^QSk(
 +[zDkXdSHDDp;8rGK`UWLX01;Xn3a/th`zKU;Rv*t48%]@1_Nm6A]B/0alKxX$48gc>L:3bE0Bk>znZxbyRAPiYJ:3tJ);A(SNz
 dyb2Er^hH@Rgx;JXv-FxAV1ZKrGe9i4MuLdWaiCCwrbAq9j$XlL?[5TPV%s):=(#<ZO^]rGWtd$%)JN%i2>yR%-=nLdk$F'qrcX
 jf[.tZI3^/4T9Pb3l5EibDxoE-P:hlZL?Cd*oR)K,Uo^NdX_yMgPS-%G)&z:DOen;2qB/Q9AxXIZy]GdY=9?(]w?_jD3v1l$LXD
 Z$bc#iK:luRsXI:WmXkcM:GLGG32-*de7HXOeN:ukgiBxlW&+eMcOmZsF[]qf_86FZp8]q3*w;EGuAEi=reR#TZ.wfCEP7tKYi-
 *Dmir.YMlpTMsb#3ov1-#2I#2[`7)h>@r5D#q`G[tL,D+&1C')Sp=k99P(tF[uam^c0EqF:VCZJ6`=X8ur7)L)%&eViw&wx8>W9
 (cdJZdmw$UE,?-wG,?MDDn3g2]ecrN#a+iO-_j(`j8b;#ETm^X>>O4jyGkdG6;G)8-eBrk+4R87#AbL'wr';q?KM9k'Mna>4g*e
 Igt_r5L9U0hoCVWyHiKisUe1PJ*:d3AY_OK#2?:Z)MaUSatC;E5U0Z^siYdV<skv$%d3-_$_OHFt3-.$^`),gj9&fbV$28IgAG4
 T3?MS3;lQ?/yf[U,Z@KY>GOK-/^afaKm='p?m)OtQ<=6ktgYA6l/>CFgdP1;6f)szoa4:nka]Qm_uT^5<h&0$Z^]<,`$:wd_dvl
 +Ue>oV_nPuCnywh%C7BB>TmDpq:Ik<=N3n`&:/Q<y]Q]ykOB1@lWd;/oE.LP/DL6@2nSJEmQaeJcIsHz(bynuW1W$QHNB'?'r:4
 32x[h7]+E8r37ygI$8hg8jwc0y&JFas;a*]y=D)O[XLq/tzrMHhomEri#8Dzm.PwA^/:,<E0=>Z74'-`I/'4Flkv%6#]uEOisFq
 rqI#Pm'[`MU.<E;5#MkX(nB=qz$o+]eIh%75)c(4MkQf1(G/zR(y7/J:=iQAM4]Ca@%t,^ljr0ylrS=&9gZpa'9RRO_c6yvXSyU
 p(voPkR=>5E.8Be6'SBN`RQq1X>snlxjcb=4._1oLVkiiS@>X:jZDri4UTXnZ+ioe7<l4^4VlDU5;$_l%8x%vKW3EOQ0sPhGmm[
 pzDlNqMbN/;4)h(f?ziQ4+P0Mrz`5AZ>GxqC,W7#CeshF)YbQB(<(p'B4n*eppWU[Z@apVAvS9xB>_2:9OHR'(-`1;8Aq'E'CD0
 6@KKb;yl-i)K3]mG#iO0G+p(JP$,)VJarAZuTwn<Ph-WG@P*^*S+t#cWU97m??4zWX>^/xUBKaUEcsB]fbcl-<qEjSNF5Kas>QZ
 )mc;rEziHkJqqcT-&ebG`7d@E8<@8Lo=7g#JVDs6v)`v]MVmr*f)2Jp_3LRY3P0wtu/'3p5+6?XA<p+-[XkvfE;lMO]0Z[fES>j
 k*rlgK==#o<v[Wj1uRRqi$sa#M5`nG/pl4^&wI>6HufxzwE:5R`y`o[PFW90nM?[,Ckp-McV?a`.L#T`:D+oudA<)09,KceHR'U
 B,6S8jqzN`b;%?E+'q,W<340E5n=(,pE^1UWU0Kgs@Rmmg(p?F4qUN4xLjbW(A8DBW(6<6<doRv7%bA_D3UugEt(zC7B#3j$$YM
 r*&4qu+F#j3?Mg9h6..d+M5-6keb1%yv*h3P-Z5sr_cJs&fY3nxtduH3`w`+trk#kE&wtx&tzmBCrKD`jTnjP/sRSVC&(1dd$86
 OL<i`Q++hvM^3xTYoG>)Xso(#kr#dq0#R;V(#Nv+4rf^vPt#igo)XaR>`T]hSWeIEut.a(9e1wPU4Zm?wi[/5A<2CDZT2yk`;8r
 V=VyqX5c/JN->.[/x5w%_F/1G+zJ_U_%h-awqs#9*N+aDcLO8h(HQ>e7:/ITMqN<0ZNrqh%F<Ot'(Fp@Eydh(zJnRqvb68H[93T
 ;TI%(7N=ym,'o+XJgn2ql+KH^6*H&X0<Y`k.Lw,AU5o?3,A&0%'F1aAqSEFF91UXTZlfx%v@]WuTDs(k9P`?o*F`mXxzCx2sYgL
 .U/XYn3sQ[Ia?eq#gVMb53mXv0Y,=e4r:GT(ajC1V^_'ytS/@=rGG61SRk>yN,xN9`i0W:w;OT;)@b,FLxFn'cVcxO-XY]n#=w=
 <O9d;Bh?6$i3W.(:%r73:cJT(08I=d@C$IB;J#Gzk.+C<w^-?y,Zk1t<pbUfv:>2o;<-G8SBLc34W.<8y4ZnlK1iED^5.n$y0WD
 SFxfKY**v5axg;sj?G,jd,'hs&CWEa*_$9sP?]aIfGTQxwH=NVR+Q2E?xe3=T+ldF^QCH$:q2C`2VyFbduxa(8rUr_A;tf3t^%w
 wa4*[DyV-06CU[4_4S%Pqv)qlZB_Ya%:)CI,MeA8g/Td/5wxCI$[Ra$JrP/lSP2)0J<M<[fztETGD3#"

end Marginalia.Text
