import PushGoals.Text.Ranges

/-!
# Ages of characters

The version of Unicode that first gave a character a meaning.  Each version holds
the characters of the versions before it.
-/

namespace PushGoals.Text

/-- The versions in their order, each with its letter in the table. -/
def ages : List (String × String) :=
  [("1.1", "a"), ("2.0", "b"), ("2.1", "c"), ("3.0", "d"), ("3.1", "e"), ("3.2", "f"),
   ("4.0", "g"), ("4.1", "h"), ("5.0", "i"), ("5.1", "j"), ("5.2", "k"), ("6.0", "l"),
   ("6.1", "m"), ("6.2", "n"), ("6.3", "o"), ("7.0", "p"), ("8.0", "q"), ("9.0", "r"),
   ("10.0", "s"), ("11.0", "t"), ("12.0", "u"), ("12.1", "v"), ("13.0", "w"), ("14.0", "x"),
   ("15.0", "y"), ("15.1", "z"), ("16.0", "A")]

/-- Letters of versions with the lengths of their stretches, from code point 0 on; `Z` is
no version. -/
def ageLines : List String :=
  ["a502d4a30d8f1g1d18g3h11i14a89d5g2a47d1a10d5g17a70d9f1g8h5g3a2d1f13j4a2j2Z2a1i3a1p1Z4a7Z1a1Z1",
   "a20Z1a44j1a7d1f2a1d1a1d1a1d1a1d1a18e2f1g5h4d1a12d1a66d1a12d1a41j1d2f2d4a53f2a2f2a2f2i1a28d2",
   "a8h2a2i6f16i4j16k2l2p8Z1a38Z2a7t1a39t1a1d1Z2p2m1Z1b17h1b13a10i1a9b1h3Z8a27Z4t1a5Z11g4m1p1j5",
   "h1a1g9j5a1o1x1h1a1l1a26j5a19d3g3h6l1a14f2a72d2a5d1a15d1a30g2a10d5g1d14Z1d30g3d27Z2g3h30j18",
   "d49f1Z14i59Z2t3k46Z2k15Z1l28Z2l1Z1s11Z5x31Z1x2Z5A1x8m1p1m11p6q2x1r8w10x11t1r15q1m27p1k1a3g1",
   "a53l2a18k1l1a5k1l2a25j2l5p1k2i2h1i2p1a3Z1a8Z2a2Z2a22Z1a7Z1a1Z3a4Z2a1g1a7Z2a2Z2a3h1Z8a1Z4a2Z1",
   "a5Z2a21k1s2t1Z2g1a1g1Z1a6Z4a2Z2a22Z1a7Z1a2Z1a2Z1a2Z2a1Z1a5Z4a2Z2a3Z3j1Z7a4Z1a1Z7a15j1t1Z10a3",
   "Z1a7g1a1Z1a3Z1a22Z1a7Z1a2Z1a5Z2a10Z1a3Z1a3Z2a1Z15a1g3Z2a10m1g1Z7q1s6Z1a3Z1a8Z2a2Z2a22Z1a7Z1",
   "a2Z1g1a4Z2a8j1Z2a2Z2a3Z7w1a2Z4a2Z1a3j2Z2a11g1l6Z10a2Z1a6Z3a3Z1a4Z3a2Z1a1Z1a2Z3a2Z3a3Z3a8h1a3",
   "Z4a5Z3a3Z1a4Z2j1Z6a1Z14h1a12g8Z5p1a3t1a8Z1a3Z1a23Z1a10p1a5Z2x1j1a7Z1a3Z1a4Z7a2Z1j2q1Z2x1Z2a2",
   "j2Z2a10Z7u1j8r1p1a2t1a8Z1a3Z1a23Z1a10Z1a5Z2g2a7Z1a3Z1a4Z7a2Z6x1a1Z1a2i2Z2a10Z1i2y1Z12s1p1a2",
   "w1a8Z1a3Z1a23l1a16l1s2j1a6j1Z1a3Z1a4l1r1Z4r3a1r7q1a2j2Z2a10j6r3j7Z1w1d2Z1d18Z3d24Z1d9Z1d1Z2",
   "d7Z3d1Z4d6Z1d1Z1d8Z6p10Z2d3Z12a58Z4a29Z37a2Z1a1Z1u1a2u1a1Z1u1a1u6a4u1a7u1a3Z1a1Z1a1u2a2u1a13",
   "u1a3Z2a5Z1a1Z1a6y1Z1a10Z2a2m2Z32b72Z1b33d1j2Z4b27l4b6d1b1Z1b21d3b7d1b1d3Z1d15Z1j1d1h2j3k4l2",
   "Z37d34j1d5j1d2j1d7j3d4j6d26j64k4j2a38Z1m1Z5m1Z2a39f2h2a1h1m3a90k5a68k5a82k6d7h1d63h1d1Z1d4Z2",
   "d7Z1d1Z1d4Z2d39h1d1Z1d4Z2d31h1d1Z1d4Z2d7Z1d1Z1d4Z2d7h1d7Z1d23h1d31h1d1Z1d4Z2d7h1d39h1d19Z2l2",
   "h2d28Z3h26Z6d85q1Z2q6Z2k1d630k9d29Z3d81p8Z7f13x1f7x1Z9x1f23Z9f20Z12f13Z1f3Z1f2Z12d93g1Z2d10",
   "Z6g10Z6d15x1d10Z6d88t1Z7d42j1Z5k70Z10g29p2Z1g12Z4g12Z4g1Z3g42Z2g5Z11h42k2Z4h26Z6h10k1Z3h2g32",
   "h28Z2h2k63Z1k29Z2k11Z6k10Z6k14Z2p15w2x14Z49i76x1Z1A2i45x2A1j43m3j12m6l52Z8l4j56Z3j15Z3j51r9",
   "A2Z5t43Z2t3m8Z8k35m4s1p2u1Z5g108h88i7j28p15s4x1r1l1k1i2a155b1j4a90j6a22Z2a6Z2a38Z2a6Z2a8Z1a1",
   "Z1a1Z1a1Z1a31Z2a53Z1a15Z1a14Z2a6Z1a19Z2a3Z1a9Z1a47d1a23f1d6f5g2h2f1h7f5j1Z1o4a7f1Z2a27Z1h5l8",
   "Z3a11b1c1d3f2h4k3l1n1p3q1s1x1Z15a18d2f7h1i4j1Z15a57d2g1h1f15h1i2j1k3a48d1i1j4k1q2Z4a91d9f12",
   "a242f14a1d1a121d1f1d30f52g2h11i12k1l11p7r4s1a37d2A3Z22a11Z21a139f20g1a150f10a80d8f8a20g2f2h1",
   "d1a86d2f12h2f10g8h11j1k2g2h16i1j10k3j4k10l1k19l1k1l4k24p1a4l1a4l2a28l1a35l1a1l1a4l3a1k1a7l2",
   "a7f14a31l3a24l1a14l1h7i4m1j1m1l2f28j4f16d256f512g14h6i7j5i4j41p3j5k5p26Z2p32Z1w1p34t3p12u1p8",
   "s1t25q4t15u1h47x1h47x1i13j3k1j3i4j6k2h107k7m2Z5h45Z1m1Z5m1Z2h54m2Z7h1l1Z14l1h23Z9h7Z1h7Z1h7",
   "Z1h7Z1h7Z1h7Z1h7Z1h7Z1j32h24j4h2j19k1m10p7r2s5t5u1w3x11Z34d26Z1d89Z12d214Z26d12z4a56d3f3d1a1",
   "Z1a84f2Z2a6f2a94f1Z5a40j1s1t1Z1a94Z1a16d24l3w5h16j20A2Z9z1f16a29g2Z1a36k12g1f15a28g2h1a50f15",
   "a12g4a47v1a119g4a99g2a31g1d6582w10g64a20902h22j8k8m1q9s21t5w13x3d1165Z3d18f2d16f1d12f1d3f1d1",
   "Z9k48j300Z20j32l2j18m8j28p6q1m1k88Z8h23i4j5i2j107l2q1l2m2p12l10m1p3r1t1p2q6t2u6x2u5w4A3Z2x2",
   "Z1x1Z1x5A3Z21x3w2p1m2l1j5h44w1Z3k10Z6i56Z8j69r1Z8j12Z6k28q2t2j84Z11j1k29Z3k78Z1k11Z4k2p31Z1",
   "j55Z9j14Z2j10Z2j4k28p4k67Z24k5m23Z10l6Z2l6Z2l6Z9l7Z1l7Z1p48q4p2u2w4Z4q80k46Z2k10Z6b11172Z12",
   "k23Z4k49Z2052a6702m2f59k3Z2h106Z38a7Z12a5Z5d1a25Z1a5Z1a1Z1a2Z1a2Z1a108l16x1Z16a365x16a64Z2",
   "a54Z7x1e32a12f1g1x2f16h10Z6a4j3p7q2a21f2g2a10Z1a19Z1a4Z4a3f1a1Z1a135Z2a1Z1a94f2a94Z3a6Z2a6Z2",
   "a6Z2a3Z3a7Z1a7Z10d3c1a3g12Z1g26Z1g19Z1g2Z1g15Z2g14Z34g123Z5g3Z4g45Z3g9h75p2r2Z1j12w1Z3p1Z47",
   "j46Z130j29Z3j49Z15p28Z4e31p1e4Z9s3e27Z5p43Z5g30Z1g1h36Z4h14Z42e38g2e38g80Z2g10Z6r36Z4r36Z4",
   "p40Z8p52Z11p1x11Z1x15Z1x7Z1x2Z1x11Z1x15Z1x7Z1x2Z3A52Z12p311Z9p22Z10p8Z24x6Z1x42Z1x9Z69g6Z2g1",
   "Z1g44Z1g2Z3g1Z2g1k22Z1k9p63Z8p9Z48q19Z1q2Z5q5i26k2Z3i1j26Z5j1Z64m56Z4q2m2q16Z2q46h4Z1h2Z5h8",
   "Z1h3Z1h27t2Z2h3Z4h9t1Z7h9Z7k32p32Z32p39Z4p12Z9k54Z3k29Z2k27Z5k8p18Z7p4Z12p7Z80k73Z55q51Z13",
   "q51Z7q6t40Z8t10Z6A38Z3A29Z8A2Z208k31Z1w42Z1w3Z2w2Z16A3Z55A1y3t40Z8t42Z22x26Z38w28Z20u23Z9l78",
   "Z4l30x6Z9p1k66x1Z10t1Z2m25Z7m10Z6m53Z1m14t3w1Z8p39Z9m73q4p1w2m10p1q5Z1p20Z11p18Z1p43r1y3Z62",
   "q7Z1q1Z1q4Z1q15Z1q11Z6p59Z5p10Z6q1p3Z1p8Z2p2Z2p22Z1p7Z1p2Z1p5Z1t1p9Z2p2Z2p3Z2q1Z6p1Z5p7Z2p7",
   "Z3p5Z11A10Z1A1Z2A1Z1A38Z1A10Z1A1Z2A1Z1A4Z1A10Z1A2Z8A2Z29r90w1r1Z1r1t1u1w2Z30p72Z8p10Z166p54",
   "Z2p18q20Z34p69Z11p10Z6r13Z19m56u1x1Z6m10Z6A20Z28q26t1Z2q15Z4q16x7Z185t60Z100p83Z12p1w7Z2w1Z2",
   "w8Z1w2Z1w30Z1w2Z2w12Z9w10Z70u8Z2u46Z2u11Z27s72Z8s52u2s23t1s5Z13x16p57Z7y10Z182A34Z14A10Z6r9",
   "Z1r45Z1r14Z10r29Z3r32Z2r22Z1r14Z73s7Z1s2Z1s44Z3s1Z1s2Z1s9Z8s10Z6t6Z1t2Z1t37Z1t2Z1t6Z7t10Z310",
   "t25Z7y17Z1y41Z3y28A1Z85w1Z15u50Z13u1i879p42q1Z102i99p12Z1i4p1Z11q196Z2636x99Z13k1071y1u9y29",
   "Z10A3995Z5q583Z6841A58Z1734l569Z7p31Z1p10Z4p2x79Z1x10Z6p30Z2p6Z10p70Z10p10Z1p7Z1p21Z5p19Z432",
   "A58Z198t91Z101m69u6Z4u1m47u9Z7m17Z64r1s1u2w1Z11w2Z14r6125t5u6Z8r755w483Z41A1w9Z8935x4Z1x7Z1",
   "x2Z1l2s285x4Z15y1Z29u3Z2y1Z14u4Z8s396Z2308p107Z5p13Z3p9Z7p10Z2p8Z3932A250Z6A436Z76x46Z2x23Z9",
   "x116Z60e246Z10e39Z2j1e180q11x2Z21h70Z122y20Z12t20Z12g87Z9i18t7Z135e85Z1e71Z1e2Z2e1Z2e2Z2e4Z1",
   "e12Z1e1Z1e4g1e2Z1e65Z1e4Z2e8Z1e7Z1e28Z1e4Z1e5Z1e1Z3e7Z1e338h2Z2e290i2Z2e50q652Z15q5Z1q15",
   "Z1104x31Z6y6Z213r7Z1r17Z2r7Z1r2Z1r5Z5y62Z33y1Z112u45Z3u14Z2u10Z4u2Z320x31Z17u58Z5u1Z464y42",
   "Z214A43Z4A1Z480x7Z1x4Z1x2Z1x15Z1p197Z2p16Z41r75u1Z4r10Z4r2Z785t68Z76u61Z194m4Z1m27Z1m2Z1m1Z2",
   "m1Z1m10Z1m4Z1m1Z1m1Z6m1Z4m1Z1m1Z1m1Z1m3Z1m2Z1m1Z2m1Z1m1Z1m1Z1m1Z1m1Z1m2Z1m1Z2m4Z1m7Z1m4Z1m4",
   "Z1m1Z1m10Z1m17Z5m3Z1m5Z1m17Z52m2Z270j44Z4j100Z12l15Z2l14p1Z1l15Z1l15p22Z10k11p2w3k31t1l1k1",
   "l11k1l1k1l2k1l3k1l3k5l8k1l7k1l10m2u1w3l9k1l1k2l2k1l10k4l2k1l10r18w1Z56l26k1l2Z13k34l9r1Z4k9",
   "Z7l2Z14s6Z154l33p12q3l6p1l70p1q2l20p12l37p1l5p4q5p12l17p7q8l63p1l1p1l182p1l4p2q1l62p2m4p7q5",
   "l24p18r1p41r1p86l5m1l16m1l3m1l1m1l1m1l1m1l3m1l6m2l4m1l1m2l4m1l12p2q2l11p48l70p10q1r2s2u1w2Z4",
   "y1x3p13Z3p4r3s2t1u1w2Z3l116y3Z4y5p85t4y1Z6u12Z4x1Z15p12Z4p56Z8p10Z6p40Z8p30Z2w2A10Z4A2Z62s12",
   "w1u3q9r6s1r8s8r1s2r12u1r12s1t3r15s13t5u1w1t4w2x1t1u1t4q5r13s6t11w2u6w3u2t10u6q1t2u8w1x1u3s23",
   "t25u84Z12t14Z2u4w1y3u3x2Z3u3w4y2A1Z5A1u6w19x4y3w7x4y3A1y1w3x3A1Z7y2w7x3y2A1Z2A1x8y1A1Z6x7y2",
   "Z7w147Z1w55A37w10Z1028b2e42711w7x2Z32k4149x4y1Z6l222Z2q5762Z14s7473Z15z622Z2466e542Z1504b2",
   "w4939Z5y4192Z56398b2Z65534b2Z65534b2Z65534b2Z65534b2Z65534b2Z65534b2Z65534b2Z65534b2Z65534b2",
   "Z65534b2Z1e1Z30e96Z128g240Z65038b131074"]

/-- The characters of a version, such as `3.0`, if it is one. -/
def CharSet.ofAge? (version : String) : Option CharSet :=
  match ages.findIdx? (·.1 == version) with
  | some i => some (.ofRuns (runsOfTable ageLines) ((ages.take (i + 1)).map (·.2)))
  | none => none

end PushGoals.Text
