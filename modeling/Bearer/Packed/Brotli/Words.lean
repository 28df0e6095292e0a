import Bearer.Packed.Deflate
import Bearer.Text.Base64Url
/-! Words that need not be spelled out, by length. They are kept packed and without anything between them. -/

namespace Bearer.Packed.Brotli

/-- The words of a length, packed and written in letters and digits. -/
def packedWords : Nat → List String
  | 4 => [
    "HZdrjyTFlYY_U1L_h2IwdJehq-vSdZmqdiPYGQx4dphlCms9aGRFZkZmRmVkRJIRWdk5piXMMOCFbytL9krL3lf27gotgxlf",
    "ZMCS5w9Uf-v-atleW9of4Se7S9GVlfnGiYhz3vOek17lMrK10SqWWsY-EGEW2khGwguX2toa3TjlZah8Ywtp1pXzWmUyLqWs",
    "bZl5eeIbKUq7kWVgo0ZzEdsyD6zNCi0arTZSKyNTqYvU5tKpSOa2bOdG2prEpzLfKFnHykSFSFi3cXGldSpF5GWZSxGmopQi",
    "Lm3uy0rmosxEoGVVWJOqJGWfUgsTGVk7uZHGsJ9QOBlYnxbW-crJKBeRTMGkknVT4Y3I5Q1lskDbxKl7MgDP_sBl2FeGOeVu",
    "r_tsanUkTeRq5dOb2GcbUY0NpxLjwaZiIxNsOSlNKLQuhE9rybeuXC5NFSudF6L0a6uMT5XTyvnEWvYqo5pz1tLxLHA5Zxfa",
    "WbZjSxWmrO-0cN5LwXHzJmZOpkxSK60l92tRRgFzY1XKW_gsM7YWGOwXJsnxv-ew2ooowfdO6thYL_MqTGPZ-sI0pQ0zFVpj",
    "TSg1cUqJSaRk9DLxKSstU_wm1uJEmdiGugq0qJ2WzqVCx66NIbbuWSOHg8HTfLmQAK3gUSlCGeiK-FdlLWUW8zuFNAl-IojE",
    "m72n0uCTLJOFL4TDqCpKa_OXV399A76YVVPAR4wyJ5OyiLVI4E-Gd6KY83j2WxJzD2fXVV54vBVhjz3wHAbDRXbfZPgKP_iY",
    "uIjKW7hR9kM4JHQGr4sNPomwn8N1Iup9VZrAMuAJmaBL62RV6j2H40urJVOhone4m9hK4qij_rpISI18I8qGOR4uGwdhotIW",
    "34bToS2aYX9w5ehAHDuPIzTRUCyGfwryrJ-oGB_40Lnnk1I0rGCeSfyyJB7s0WvO6YTCnIhYo0v89NqmBo5khS05m_O7b7yw",
    "H8HLo4PguLC2DNpz48M3-rf7NbzJyddRcbJ8hViWwmQ1tmth4JBuyRS9Obi7LESla_ztqlJ-bW_3qVoonxMbuOcSK11CThCa",
    "pGAvT-7vdzX8qYzyxK21k8HDvEY_TnJ9xbU5zRFHg-IE17H3mvNaHVuDTaWdiHmKZVG4EB0osR1rWwciaFwhjCMvDtnvlEHq",
    "OLjvyTtdq0yhCd55iFMqjp8caHKwliLzxOIlNIe8xyfGEcOMcDdlZdy60g1Klg2xl1ihEyTAsZ6MEqmib1xx0rsJz_pr9_wh",
    "e1Zxd89ZSxzRCXjoq0Deky0bDPuQEZz2ZLMldNCrzIfz4iREA1L8HrCPe3B5Y3GycE1JzsJJXbBHhb9C-D9mrTWx9yJxgfIO",
    "bmmSz2cImIG7Rzg4wWmv3n7tZlT55marL0LLxlb43eMiZdbi3r2w1aZGuli5tK7rfqkcNgNXlHIz5Bz8liMO9iL5GLGP8WDw",
    "XEDMYQF7Kw1aEgX2pB8LVWr2g79a2-W64swyTFW892QBz-RG6a_tXYETZa6ZG8GHAn1-bjAYtKeMSlGnFUlRWB9XJgrIo7SU",
    "McqiM9k4j40UvpP76LrUQ8joKuWZql-_fftKK_nEpPnm9dUVfCaFgnPtllTkcO3SiE2TkBBeFe6pq1evsg-0MWrId9dbdk-L",
    "tHge7dbkta4pMPfSxR--frDT6SJO6JXudzovzLBTVC6lknhcswzhwNcPjg5SKtwMH6ExvkTDus8806WaaOJJdYFVbCJXaFSm",
    "Ck_8qVHUBy0TOFMQjEN8utPZ6YQtv9GEPps5CspjSYLmxDqpFDqtCZRjaZJEtIpk8wOVJ888NR_pilqLXVy5hFRNAt9Sn7cq",
    "oaOySl56_fp1gz4ZfPg8ZNUtC_H9pq0B5Bb-68L_spS6CahBDq5EVSaNcCIUhazhRlLpeDUaL1K4Bu99gqYg_tS-qkSvmiHn",
    "393tLXvLK8e5Q7QU-aPKyKEvgSRz0PHVcL4g9K5NAM6vpzgxhg-_e-cfXGAbh4b0MXHl1mu3VwH7yYhdb3l6SvFq8Fu098a3",
    "em9VIiI2f9yn4O7zh-gXzNmh7_Cr4dXFRoWoX9REMvDHHAwt00a2-7T1ajhdRGib3Ai9Gs4WGv_DW-godEH-GLsR5INLpJHd",
    "373zQ2djtCmXXl3quDtKx2hjVcb0AQW15MiXx9Rc1Xv7yT2-Jfv6UwCf0JdyMOgtc6Wz7v7-sSqtoc-JInKrJk7OKl1U3h2s",
    "3QG9QbMajRav3H7x5mo0WIhI5PiKtUbHa0Rw97nuLiXWr0bDRZfzUGeReiVytOXooDh2ttI3Xrl5nXykXynxweHiKB0ez_Et",
    "EnB0FZ6uBoeLnF5rcTi9AwekMmH6HXou6NXu-fe7vR68LolJIqmpUMvQ95hoMZ7d-a6Nv7t7t7eEW8-B_T-PJjZt32BrHZAL",
    "i8n0zqtiI8as13n7tPP0X42fXowP76xlHF__21uvoKXpRlHuoLajv8DGn9-q2hpKPsAfapXHd_0AHkbwNaUXQS_okYxfjKd3",
    "Xl6tbu2PBsPYUqmxcf3mte4JgrOYHN558bVr34mwseycduSJAj-5Q31zcMfvnvaW9CKeVF8KurnT06ODN9Xd_g3qT5b_9rOa",
    "dTycE1HkUAtNOp4sO0-cIlnWEMs-hWEwmPTwRbNG6h2kImPRWRvji153NBjAcXIYZ9D-0aeSE2UTElffwCxJT6Gs6VPMQupc",
    "wrrUxP4EP91K-9fQA1q9y_7KkNcZXKHSCEM9PIEnIbzvRNTcUKuih_jMmIcfBte-fc3N7h4fefKy7YDVs8_2auJGk2ELioct",
    "PCVfy5de-BsHT8z-aLrSrZ7D9Tdev9ENKk1fbrPl6U7n5esvXCPneiII0Gth9oZX5_RnaSsKRwcKbqElVdtH0yeoQr6933ly",
    "MBj1DI3-m8O7yzfvLjs3bNKlrvidzhNPUC8TamoeoE-97-10Bi0niENmF_-PruHr4x23ODjoMhFVbPvbZK_3vQ7QLnVzl-MV",
    "USWof8L3X731zR6Bfauynu8OOY5Cnu5AhUPGhDFlzBhzxtXR4PIzZIwYYwa4EbgRuBG4EbgRuDG4MbgxuDG4MbgxuDG4cWuP",
    "e0OeDcEMwQ6YM2DugGcDMAOwA-ZgAGcwwPEPojHmjBljypgwDhljxogxZICbg5uDm4Obg5uDm4Obg5uDm4Obg5uBm4GbgZuB",
    "m4GbgZuBm4GbgZuBm4KbgpuCm4KbgpuCm4KbgpuCm4KbgJuAm4CbgJuAm4CbgJuAm4CbcOJBe-rD4fgqZYnD80fPavPH_8rb",
    "hJdt01XQx3gb2ZS-PESwxOOHNlAI9ONPhHCPP9moiLrh2o7Loku2fSPhWoTENlJry7ubpU811OL2jQI1JWN1Yt-qHv9X29Ua",
    "bFIjaAXIHGpQINbtei2drUgqUVS0mMaSkvTeaJiuVFvqeMlpLO8TAnEsC8X6AWvqFqBtpCx5Ubb7UttfbD_dfsn4avvF2Tvb",
    "T8_eObt_9u7lvUfb33D3K379EtSXXH9--eur7c959hV3fnn2YPsx2Ed8Hp59hIWPtn9_9tHZ93n6Gdef8f1xa2P7cPvP_P81",
    "lpi1_Zftf3D_0fYfwb4L7p8u736B_U-3P2L8kPHx2X3uP2S9R9sfs_6j7a-2X3LvCz7_xrz7259ffP_iw_N_v3j_4sH5Txi_",
    "urh_8R6_f3D-8Px_efITnv_dxQcXP7h47-IB4z532usPzn96_jOu3zv_T-Z-cGnjw4t3mfMB9_4HSz9try6xH3L9Htj2-_75",
    "55dWH4B_cPH--X9z70Mw759_cjnjAU8-Z_XP_wI"]
  | 5 => [
    "JZjNjiRFloXXpFTv4ATqolJURkYmMAIiM0ZQ0zUaie5hqKJHM60WMnc3d7cIczMvM_OI9KJYdPeTsGTBYsRutvko_SL9nWAB",
    "FX9udn_OOffc7FzK5ehaG73rh3KKybejbZ05Da7Yxsdsa2-aQ9K3eTTe1zEe8sRndpyzazpnfRtTa9MUXShH42fr7dH6Ympv",
    "62hSO8Q52z7FeeL4Q16sSTkXU2yJrVlOvCAGk0oui7etNWWY4onzhhhs0L02pZhcmGbOjHPh_ZiLK54Dos9cFoqPjfHFjTZ7",
    "k3rLRW3uDW_zEDl5ItwuNnNuPLePsbW-5pFDP5N6Mq2LeTCJx0YbTG9cGLl7caPpec8pS5xD713Q8VzfRB9Tn6wNXYqhPDXj",
    "tCWPZuhiauyUXGPT7G2ube-C6Xji6LIrLueZ663hCx9PLrT2ocRiPBVKnMynPBvKlIi7np0vXHnIebK2zWVul0Ko5DGHNtuQ",
    "Lf9SuiGeAveOOZnQW9O2-rHzfoxH2xZzIIOal503eejcg20jAYVYBkVlT7kZbHPwtjc-uaNNtH3Mb2bXHCjJZId5NME-uFx6",
    "-ttzqLNlcKmtDd2fLIWleVTctWXwkXypqMmnFIud-DzT-5RbHZ1LTLYm_UOmi8MxUiaqYjPFLsOJeKySboEeMQEIlXMey0Ch",
    "80QbJz5bXnhC8wKI15kNaVG6hYdDSYvuWOasi1WmhsIWmpeq2iXhapqnskw2m2nyy3-ov7UlrXmabKImVmjiFGqaR2uo8QM1",
    "H9Va_m0Oh0CxCc0vtJavZx6bzPlZjhe2Qk9UQaBpLe1pXwusCjz_uxhQ06QW3oQerJnQGfBLRdrFzIBQ3cqk7-26ieO1Emwb",
    "k21ujfNLwxctqDNlP7c9XYiCgCs5KOg6RUO-JpeGbiclaDtOys3S6P82WFgbKBj1O6nNb2YAPDnbWDtyfkeiyEB7Zl5BD0ZX",
    "GiN0uKPzGX7xc6AMcEYr9EC_uRlq1TnFxdCIg6V5kdtcECwgWKVKdMaV4dxRO1L-2HVAoomTVTHbURQ3vlangTu8RBZSMsto",
    "9lQ1zWRkQgykGgMNPYuMA-NQ9JUk42uhDqxOS2yaOZF2-aKDQgMoLqrBmHsRJ4hGc6opu64UgGm0ajWXuKU7xa6HMvpRJOkg",
    "rv8fISdzGalOrqHEJz7l3jaZU0AFXaEdzfCtzmuNoGxSw70gqSeN_LX428a5LiYvoSmwqUZD44le2m4RDQIR-JvN9LAFCUca",
    "CncHQJJfiJevpFw0Ki176RAvkbkTxNk832w2rySbE_z0OYY-J7XCnpV6cJ3EXJDPJQPMNp-sPWQD6yAqJ43ChhBxDpoGTJSQ",
    "t4V3B7SknL9dRDA3ZpqfC2SQcCexO_R318PHO7WsXyOG1-OM_qrJ7TciJ78LbYmoTwZK7TN-mGvErSe0Sad0XUlO8PY-d7P3",
    "S2eaIuKG8prfVtfXV1c7AzqC7Zep_F4qf_MpZfq9wAos7KpJMUsdQwE0fa7jw2onErfke7SUONDitzb3M8ET7ie7FGsJnzku",
    "OuD5eXb0omSTNDtcH7I5odCtAcAUJNvd3ftXVzZ8_92rpx98_Pn2dkOnvheoGQSEFvYgf28e1ryLIUOZ4bv1q3UFC1oigy6o",
    "vDPBHFe7ZmCwgPtkITeclp6i9zG90uy5-fzzDR1EFDxim_dmOsuDz5QJzMGUZDRyyON2Z2pklZ4kcMnnq6vr6_9uKD3F1RPW",
    "jPkbkZgsy6CZF9bTMP1rJoACeQXB2Z0VjmETY0dnLKPstNpRf4idZmksg_5PmucvpQzrYItacnGHzFY_XBxNqkbpVSOEARWq",
    "3YKBNyo2YukCAy2mgZmGdhAuYuuakaCkIC7dfkoliYyHmRT5hYgNu1E4KXqGc8ACGpAGtaYp7Si6aKpJT12W0OZ2ljTbB5O7",
    "BNsDQHr-7t2f_7KlMCtipXnf_Oer16vYkOtdna53HXklWmMOrZ3KUAkhSMKBIDmKHqVyKzaiMT1sQqBPikrRbhGX-9Ukfozy",
    "NH8g82q9Xt9dG0ZYXyvpOrZLhVrZLfoieKe0oBaA3XaaFb39fqD761HYwIYYvqVddOFo93JQd9cl7do091nBVwaESICQV--R",
    "sAdY0qmEDSYma-A2f2KKVxkRz1i1cNCkzNUzkArbbfu9PEQfyUNAL4LQQRHkMxnF8_Zj5XbSOCG3bJ9dblfVV7JHPDo_7Ekm",
    "T2ii_5Avdpdb1z27ksi2BuOIvcr2pawV2WMW44PNrzUqGRJKxo672qTVbp1Tc1-kDAjY_aqROxzA2nL7yVn6yjw5cLnIh02Q",
    "niSAhj0RcpZ2rBF0WzAJ1vcu-Xzd5Hx9s9n8btv4uUZQ5q6rHYceNcUrvtkcYJr58XL75KKWngLM2d5XP_y4_Uz5Ngfy_-HJ",
    "xXvvGQShbZSvA1aDdwdbJfFZJjW_xFqtFjPEePnnzV-2X8qBMhzaDBFvdi2WpSfSQ_7u26-r-8ZCvx8vqeDNLXdMUpWiz8qc",
    "Qt48_Mtms95P_QoEAxWNjmIo2OiQMrk3D8HurnvEm4wQpys1T5Bak8fFe6NIUj1DKl5--V931yn2NjG2w-GFOHP7GVd2GnJ3",
    "RHYHMQteGX7dKhYsWDhcVu_eVR6zhi8GTx9skLQKOFVeZvGkikvgtnvzxT_-lh2ovuswZwnrsIzWljzLAcidTUVz5itp52X1",
    "_n3VyrPiLSY0LI6Mo4NdxlgzfMl0_UcEpJrkneF0QHytdGO8Xt2oHCcZcqBnxlevv_z2tbBVOXxseF7dbm5I_McLGdz10WEG",
    "pKK4ApwM8y2Xb2T1nMR3En_FmYt4hW_pnLYEGWtNyopJYIL76KPLH0wba_uhmuna-5uNBsIWrM7V-nY9uvUU-tXBHnEwkfa8",
    "kOeqkUN7q0hp8uVHevEuy1tgDRo7iOI3t5tVpRGL9O2eXGhA3LcOEyDG8wUFl3ZefNB1HSTCssjhrWQfGNY8dlk9fVrdnLmA",
    "z5oocyiyb61a8XciXTUq4kpJW4livoJrV60WrYunvmxrrVVffPLZ_95hRMxVmiEawrSrNCBx64fzqjDl-2q12jIMmEeq2s3H",
    "XIn8m4BSs-6hhvfx_ne3Lyup0Wgwundu7Cv-W-2eV90-61W1Uv3-8DpOX73GTq-CPfnl3-jJoXlrz17ZeXllkeTTXWferHZv",
    "h6sm3Gzo5tXN6nIrF35few0LVqVFWpLX-_zhlurdvQ8Ora_wRxXD7sm5-9Veu4QYX6lba5j75OIkXwJpD3mW3LQtnK4hzaGI",
    "W_BoVR0x6vhnQgNzrGDDGzA6x9HlyC6ChraytTKzbczTrAX08f-QwlwefyoOxcUFFMMkjWcbz_rEVAgzOjNgzZJCMxw2IqnY",
    "1ZGRFc2b-fGX9vEXOPn4q49mmVvTURajhVfGqGjPjERVYuZkficEj7jpiNDQuLlnSzULAgaEtcKKmXIA4CJ3zFDFZwjo8Zes",
    "WAwGbW6JJWZt7xHna4P8IntTK8LK7Nn0-BO2SBk3Lu1jfvxZpyQ5K6zFPEUc5xDPMOA2ZgbWPDLeTQ7MWi9rZpWqgYE272fP",
    "xsJYR0oaZzqsZdrLpHtHYSeUItYzacpdJwPEvN4auUhcTnrLubWWOEIABlz0-OsYlWTc6y2-5vH_B_1ENViw_40Z5z0eGTeU",
    "ulmDhItiz35gXI8vPqourEsRw0fx1UvKO3IP2GJe0zvkmuUsImAYqIaYYY-dZSOtzCh7J5Ms5YjppVJUFTI-_hpQrrdRf1iI",
    "YMbko2I2U1yINMhkQTh9FhvonAhTleTeRiLS6LGJALL-ShIEmvD4k3Y-d96B2J2AUXMO12iX9MIGubMHEAbVwF1b2WQ7MYkZ",
    "izqGp612DWQNd0vLhKGeGabcZLLoEpKs7fi3AgYHqt_8dkc2WoKaODhAcHRmj_jioB9_1swR5BM7MbjZG-ANnlm_jNdEtt5q",
    "DcbNmXMPMasx-xl_oCZzlFfdeEIbdipu-g1IRpFGEjhyOVEBkjYe8Uz5bcSim7GOWSNav3NG3vbMBZNntnYM8p7qov1a4kjP",
    "NYZiPP6yj7qKlhl75pSkABq4lGfrFUHM3fkvNp5z1e5zgqojm7v-HqWuGjayKFtmhN2i2eCty5Stjh6ASgsAIeZLAT3-9dw3",
    "OrgXQ9k1AINOVEA_qdMc4IV2VlcpyM9Cp8gunpCJhpKRYeZVc963CoTnKCkLWFuoG03yI-4yykDCX37OWoFDcaSl9NEukE0S",
    "CL60BD9PWUH2eWEzZ1HLDt_RqGXaNzDmCA8fW_35Zi_naI2BM_mf"]
  | 6 => [
    "PXpJbxtZuuX6GXj_gdCiurKr7HR2o4BG2iWgsob3EuiqrC5n4y0ajUKQESTDDjKYEUHZyqoHUANnSZSs2aTmiZJFUtTIQSIX",
    "_gP2Tt55wRsR_Bd9znVmw7ZMRdzhG853vnOD8YsfkqbzRDVjih4PmbGYGbcdxUna2pgWd-yYYjuaZY_jZ0wJOboZDyrxuGZZ",
    "Wswc0-yQZRpGMqEqjhYxzKBixDRVT8bCuoFZ8WQsqFmhqBKPaJZmJw0nkQwaegizNC0eipqmrcVNK6YYjqWMaYZu20nNts2k",
    "FdIcxYpojp2w9HgkZqpJA_sFdUOzX-pOKJqImo5pB01LpSURWKU7tmaEbTOkKwbtHNNCppGMxS38b6lhWGm-dHTH0EY13Ylq",
    "lqHFI040rMR0Yzxs6VpcNZRxM-koSSdqWjAQHlnamK69tJOxGCKgWWOalcAgTZU_Le1VQomrCRMOjYfphaOacE9LmDrihvG6",
    "Zicw0Ywb-hi8UDVbj8QRXidqY3wIAYnrPyS1l5oeiToJzUwYiIpmRcbjCD_ipSmIXViP4HNU4QqhpO2YMTMctjU44sDAl3pc",
    "NWFhMKY7FnzAbMtMJuxkwjAVNaohstGYBo_UMV3VTNtm0I1wUq4fVTBX1YLwdEwxEPnvgs-1kGMyPLZFo2xDUyJJLRS1zBis",
    "j8HCuOnoIc61NBUbwirYCR8t-G059DWu2T8kcTuYdPC7HlMicCWuBJlBemFgP9uB5bD_T5YSD2mIkm6qtmOZ8QjWQej_pwm_",
    "4I6j6AZjq6kq4BdXbS0EyxMKwqs6ZiSCaCPbmq0iU_gPuNVDId1B5LGapsTGNeZdcRwl9IJXNCds0LGojgXjejxsjoyaCURd",
    "Bd7DSQNxMLTxkILf6LvKvAMLwFYI5qiKdIaO2tor2A3YOowA8gp7ojIY4TBiGNY1Q7Vpj2YjX7BtTLeTioHicExrjMjU_iYj",
    "FsNWABgig4URtThMhSd2zLQdYzwmkzES0NXfjsQU64XmML9xlTVFAAGT40ENEdLs8VjQNGLIE8CX0JAzzGVdxG2dsSNafq8x",
    "5qbMsvZKt1HdiIOh_TFpIQhY-aUTNbSIEhqPyRpHspORaAhWaciT_RJzAQs9TrsVI2To3EszsBpug0BChinzkmCJmzGEI6zQ",
    "fjNBSyR-xi1FxxgQh5KAjSSAUBT1HlW1sM4tiSVULD6iGBNJJwbUWON62FJimqw1_K5qhv0XyS1qkvyACCNRtjMOenihI4Mq",
    "qMTR1BCzqdq6gcpF9GA5ZmqOFpS1E4S_sF5H6dj_JrnLJjq1l7oK5gnJWAWT_Bw3X1pKAjhA9kKGosdgdYQ4V8KaMw4viL2E",
    "bunOw89GJOCHGlNeYL24Bm9VK2nbuoLyUWxNe-Vg7WchS084sOEFaoMgRWmS8lSdlRoGhRH29PFhUGFUoxriABSCEBSJgZcm",
    "8IAaNxKa-nsZQwQY8-yomTRUxXipjNuGGTFHAkETlRhjTEZGv_jHmGIFYGBYf2VaZOZ_lzh_lEja0V-GQB5EAHg1HrQYCENJ",
    "IkN_k0zoSI-AZJ117oCDVIn_b2SlBzVw5zjsBFUAkRHTeSYZTCHTW-gMRDRYidZ-7ghgIfQaZtDSeOfPkuFlFwK2E0DLM9kL",
    "JM3btEBTfxEP2oknsBOV-bsgMBLQbQPoexp1YkYgZJovgEpg5bcjKNYfzTjRYsUVlfygx59-qYx-Hfg-qgVU9AkzglCh0r_5",
    "4799-5fAn1ESIdiooLqZfbCuZGZFJct9K3ch8Tj2H2NItvZMcinqHdWg4veQE4e_BmsHlf5M1sWjBw--i2vP0RE0FZWZHBn9",
    "a1Q39ITyEiEGiaLraMgaVvhOsoQlYy9BbKMLIM7PJNuoqE4N7msvjPHAL7VHkUdBDXSjqiZxAkcAHHQTYP7pl8FR_ENPjNvg",
    "RhQobNalV_gpO6z63x8_Trz6Z0hBWBQQWjw0DvAhbejp0ADfWMqPumErZHuJn9GgNg72e4iaBYBD5D3ZDYFw5E77k2miUkKI",
    "uaU8_TL61eiDv5OyRzB27DMP2_ZI4MvRf33wKKKHRwLADnItkWB99wpDVdqHBIPN9DFZufEwLDG0P8iOaes_MpuJBLsZimdk",
    "1IA0MWwH4XthR5EizZL9VFXYbeAzrNV-h6YegncIm4rcIJ9_lR32adCCLS_ZXCyICzYNoFBT__nPwD_-8wn9HxnVP3cx1Jgy",
    "zsofGQ2jD4FPtLidBGfGk-QQBcVI6aTZX_2G8ZTthzHEJQbSGMEqqFDZSZ_QE0X2MsX46hHByisAOUIY0sIIh_P1o0Q8MhLA",
    "mGTs0e9kF0goVBA2y92WvKH-u_a5MYMkrP_9_Z8e_o-RXyBTTwLfyC7wKPAfUDdwSdVN8yVIFPotjhQnLDOsO8__V1KzxkHt",
    "wCd6jRKDggLBO1BBqIOIaUaYcZam_qtffRH4h25bCgKtjEv1EsKWUVTmyGhUMgaDgS7PDh5N6AixHTTM0IsnMgzsAiOjTy0l",
    "JKubOXz48BcR5wkYSnfG4QxsCGK-knz0PAGvv3r868ePH5tBdPy41Gk2jYo7vw58Gw89IiOo47KCAugh6C-OieQ8IqMjLxw4",
    "_neC9dGfpKIzwAOa-mfZMQ1bC-jhv0rNhly_0Ma_eEIOlF3TiUhtBhVpWvYfpAb-T7is_QPlg-HfYM2nX4YlwvFRjz8KSz3M",
    "qnHsp0FTHYfliVeBxwlciykAHcx6jlIErKE5FUvqE1iIFoR6TGKJ39DRQAJLoLLAN2b8EQXRL5UxhVWqsXP9XbokkWDL2lTo",
    "6atfh2V3k-rLtmQWUCYW5rI6rGdSBxK7XFkdHxl98F9Jdt9HmWZ0Hnj6nJJm_C-QtU-_hE16eBw6Fkvo8edJaxy9z4n-9veS",
    "RZ99_7u_fR9QoPBt--9SxjlR7kleGkMvDiG2QfMVNnkmTweBP0CkoucCzpAHQdkG4bb6O0DcCGCmYYyjGLgpRo-Moq9LO0l4",
    "0OqIPzgEXSisW7YTQD3-n__7hKcJ5VEkqSMy0Ae6HZUWfo0eh17wHcVF4FEimhgJgOWgqWSScUQwbJ5iTBklyJQwtAs62u-l",
    "fkYPBkICEPtW4JnsPg8e_AdY2VEAGysE2rK-xkTQbtiiOnFk9Ea-CPwqMCIzPhpMsiKIfNX-s-zR7DhUkgkpAcnJv0m8ejIy",
    "OoYKBl-axExMeW5a6FAQK8gnIx6TOj_K5KEzxZWx0ReQWYpN3hgZ_VaKzd-GoUu0l7BPC0Tlao8_F_yDB9_GA4EE4mD91TTQ",
    "Mh7KIGIP8OA3suM_I54CDyWW_pvknDjyPjL6-CvW3HeS5R5KeooRVwAGcfvts2_-EngsyzGAyEOrydPBF5o8_VF969ajVzFj",
    "JBD4fEiQKz-UxY_-9cdXia-jhDsOamhRYzp1F85rINSnXzrW6L8mKbMCD_6FNTj6X7548uBfcF0dfSDvPggqUcVWEFskKQJw",
    "R1CTkXHUkfTRthL4ed-8b3zMDVo1dyXr1VODu0WvPTF8uzTo77gTDVwX5Ts3tzDong5aqUHrRKRPRanl1Xe8-Yxf74iNsig1",
    "Bt0DtzIrCjvu6vVw9RLDBp3OoHMkFif87Im4aQ5uJwatN-7WgVcpipuDwV3Fn1jyLrru-Y5byXt3C97bdTefwme_MY1luW9_",
    "iia93faWqm7uZni4Mty54sRU2i1gZGO4Wh_urnnllkhfDFpF_-7Ona94l7uDuz6m-Hew6lpUql6nP2h1MdK_mnZX1v2jzHB3",
    "QZQ3xf6se1EVmRnu3q24S9f-aklk0qLedueq_uy8aE2KSse9ziEO3nEHfonSgmhNDbqpQTsnDu5EqegtbbmXXVHuefks7zaX",
    "xeGku1lx80UXc1fOhqtdt5LCB3elLW5LYmZ10Dl1S_ODXplmd-bc8qXYf-P31xE0BMTrbnlbB8OJRbfVcnMl0e6LhYJIXw-6",
    "K1jf36mKel6kq96pTMftG7Gw5vfL_s6MN9kW2a6Xz7kbU97SlajND1or3vKMX-_59R2RnvUv2-7yuj95LgrbIn1AswtVLIvM",
    "iuUMMiVm34j6rjd3hqANWgX36ga-DO6Wxc251y15mFtN-Y1Dr5vx9ntipuOtd8Xdsls5Re6GlZR_ODHo3rjbt-5Sw52ZAGyG",
    "6-nhYs-dO8BnUb8W3Q6McQGAUnG4lvYbXfdiWfSKg7tZ766OLdyruWEq7xaPEQ13-0bcLYr8rMhlvGbXnXsNH0V5e9ACrvbd",
    "tUVEVczPDbcuBm14OutP3Q1TCGMWw4A072gBIAEycR2biv2smM8BPGL_CJbAfoTO217yjq8HrUWMR0iHU9XhTtsr17H7MDvj",
    "99fctYa4TYmjojuVFpkrRNWfXgAmiavFCS8_I1p1UTjGFTGzQnR15rl-7RB_B-1tUTkTGyn3quQf5dzCMgYA-V61iEC5zUk3",
    "NQcUoV5Eal0UtmAnUIpbMABeY7Bfb4itOYAQyEGgmNO7plss-xNrYu_MXZsbdLvMzsSB6Ny4y2fubN3rzbFam3f-3eGgW_S6",
    "s4O7DLxgxK4mgFWUJKoM1UpfGhvuWs_b7xBInbKYXUYiULZAFGLubs7T_nLPXU0DirBcpG_gFxYBSkVuFVWDPIrWCpAmGhlv",
    "ewJlRdzOHYncNefOdMRWB_BAbGEVxgNUw-wsfQR6OzNipeKe7gK9QCOWQpBZBZ2yn5ryG8tAO6G41fbrNRhMQC71Rafi5pDu",
    "jjfXELtTw8N1t9UQ8zMMY7UJJGDWMAWqSYn6G-autMCkL06421mRzcjt5vyjPZG5gIUIrOS0ItYXpYJ_uYeQurkVMAwKAZwz",
    "6O6h4ryjBgIiDlCtHcSZni6lxFJdZGHGmXfYBcOIzhI4B2HBeKARJnm3K34PxLKF6gPv-Y1dohSpr6B-L0gOm9Oil0Ptu69r",
    "7lLP60573Sx89GorXvkSVQNIiELZ3TgArtz1yeHKIskzd-ZN1YarVSwyXKoDvYjzcGNTtFp-sek3at56T3QORWvGrZSJh4ML",
    "t7Hk96Y82pDxj6YZGVZinYBfrbrTwOeEd94Td8fuKmic7DR8u0a2qYK42sONXeRxmF0Q-9PgfNDLcH0eUATjDRevUW6sFDiV",
    "yww6b738MUujW_LnD9wbMMw2LaxfI7Pe0SwgJ3n4Bk6x6Ao77CYLBb9-BiZh9-kW_cvqMFvylm4IxbumWJwVt8tsAYUDjITN",
    "zEX_7TC1JV5XEVWm_uwNmByOeEsXfoModbd3kBG_cSDmMqJ0LkonqAK_vwTa9y9rg_aZmJ_1js4kmWSAKBZg45I1BVruLIna",
    "seTPRfaXalF0SsCJnzt1K1NicYerMYnXoj416G-4hX0_Bc5ZGnQLYv_YO1kVpT1Qq5ua8ArX_Jlvi9xbv76P7UQ_PdzpgvPR",
    "EcRZiZvmFkSKKOXdk9fov2Im7RZPh5N74AfsSyYEf2bSpKN5uNZmpaN-jzLwdLi-i8Jk3-xnYaq31ERPIVDBnNmOjPMsbrm1",
    "PbA6HHTXttzl9KBTBH7Yf7ez8JH8X9jxe4uoROwI-CHj3k4K_YJU1smwZLodrwY8L6K7sQHNT4FvCSo0l9xr0WhjXz-Pem-w",
    "I2dmWL_gisqW92aac98WvVre6xyBzMUmqKk0PJkR9U3WeO4a7sNUSAXY49V6st6LYm5L5Mru6jbbBDogJEGqSF2B6s5l3Zms",
    "mF1lFazWhuWMKO_KniiLC229vO3W9r30EVDq3jRF5QI-EnLopzebEudbADnsQR_x-_DrFg2CxU4-XETlyj7CXsO20phGa_OP",
    "8qK3ykqZnWM769REfQbgcae3eKue9_fSGIAKHU7W2SNAg53D4d4WVdD6nTd97d-dUqUUDrha_YxKBty-g31nUPjM2tkCaWQR",
    "DFbxD_qoRCRxmH4tOquYjn436K65pz0wANo9WQtZrs-QYKlMVtDp0EmHuxnRuKXKgr8zXSAEvMG_3ZJItxjV8rZoX4gSqmAa",
    "VSl2N1Gn7sY81BFhubs5aBexlz_BTuou55BxYrt9CWGGZkfEApAo20YeegNta9Cvu0ttUZoctObc_KKYPUOFgo3Jcrtn_tEk",
    "xUltjWLsvOcdbPpzNzJQx3DW6x553drgbhs6hPyPnljdgVIClVFvgAP3t4bltL8-5y6inVWGe3PQGKzHqxt0eeLzbhGqxtuq",
    "UbJu7CDy7nnXW1n1-_NUOJ0jeIF2D8ZDWPwcFGwOyKT-LG9BIbCslktDKChiexpbUD2eTZG0L7JUjFCwhap_uYUGITKoUyzV",
    "h_gEet2VO8qb0qpfryI4rFko5NLs8DBHlXXbIf2mjvyZKYGSh0Iurg9uF4ar54gnQMguU5n1j1Ik9tIkpqBYQJKsQeS3v-E3",
    "oKN6g_YhCpyJuCqiM3pHVG4ocAYHjaz-xp_c8Q7Yd9yVGpQY1AV7ECJc2ETtIJvQrsNsln7NH6B5UY0gd-U6yy3XROd1F6ap",
    "Lip59t_9rL93R1UDIq10EDp0PVFbBbyRaPAnST6Dgl2gatrYZUVAPZIPN0EsXO3sEgADemU1FaBh_LNd_HXX66gmskoLsCkM",
    "brfJBrm3bm3GLZ-7xQPZR8qUzelZVlDphB1z9ZqN-CLrVwt-r4f6QqUwg_VdysjUBFaD8MZeODLwVHJ5Cfb2rs-hS6n80aGy",
    "JygfFDv2QpeB1AFchxvHzFeHHZY8DNzeogHtob-L3PZwfZ_Bz7X8wiQCBd2CjLinO-5yCy1bnC2wk-ZeQ6ehM7p5aRXqcX6O",
    "CjBdlftegVsGdxdoOl5tCa2BSqO_MXxTAelhI3cvBYwhF8gdegHcdM9fM9Hg6lbLW3rjZy9oz3yGmhBKD70SkmYfkvgam_qb",
    "s6Ld8g5L1PxQWXe7bGTZDLQu-QSSFWec3Jmb2nCnAMI59pHZEqoAnQiuUT8f3KE6eISZyYMqCUUwWBvHpQoBdvsWmEG6eXjJ",
    "gz2mAUWk293oA6sQaaAsFBqPS2uL8I6Sr4BKKZOicaaYzSLgbNOdQ-Yrf8yaWr6EEIV5w9Q2mZMYWx1uHYNP_MsW14GDSGW5",
    "NVytkI3RHe6a7HQ4VYHPoWfqbUYY4SrIU9LGDviQR0WoxzpTA8BLkXMtmmkUDpjT72-iSNGAxCzOiT1M5NHg5kgcHIAieIpB",
    "18MBduPg85EWGAb2iBk0UzQdsH1hk8FHUR_m0NGQINTXcGkdiaYL8znoPVC6SN0CYHS2vOBt7KEvg5p4CuucoD0N19jOyKj5",
    "vltMg2aHy31ZcR2qCJyY0IVxNuleospAzm67J24ORekC1T3o3gFC6BQoMZyq0P3BdTyUARtLW2IBx6s9VBPkK8_gwM8tUNH2",
    "8-eAHPxC3nlURDWBMXDAnwZ-Zkn16SOmD50UxNifJ2xASv1V_2KPmu0agjwrKluUylfrbnMLJzs2oLkqpS8OfbB_o8Z-mj_i",
    "6QywTG2DbShaMKbdl2fJjlsq-f0zUVrDKYkl391ivedlLawf-40eJdYMGZu6ESc4bDrXZQ_Kz-JUztNB-xIocjcmYRswMGjd",
    "Ab1s3-vobhm3ckIfwbc8pOCcuweGoRbK58TGqt95iyzAX9HJwGzodgJP1gvP45UtvymvT-EsUKHcnax79SakBc_pzUk0QVFa",
    "AZeyG-KgWm4h8ihtquJcZvh6C-ca_Ort1KmrwdW9Ik9GGymcGtxNnBTW_QYUUZ0qqL7hX26AUSla9ubguzsnT-s4YTVei_o2",
    "agS0Q7l1vOy_XfFWeriFgwmZAZaAeN-us5NO9723B26jJCmlJvY_V3QGV9h99o_dywOUFZVk6cyb2AOioFHhMp-ftE7Qj0R9",
    "jY8jcGSA8i-32KZza97yAaUvZvVwrMvxcNTrU0iXa0Agz6G5vmgW3e0S6QiHREQbsMleeicTRNTEohSip_JxyiKKwt3ZI2IL",
    "FyATUToU-yus3_QU9DyPABQMa9BsolyW3XnHP4FKnxu-mfeOJhArhutoGq3Tvc75l22RbqLKRH8NwokPqXAIbR0y7_OzcNZb",
    "v-WzkdsUTlJso-zsq7JTEGlgDJwpeHKUJzh8xmo4rcgj6hZ6NAU_1SafQVGlQAlsbKFVIdeoAvJYms8oEBw2o9s17yiFMEL4",
    "ISag0OFEwc2dE0WlPT7b6eyLsyZVR38Dx3N5gkAhT2Jrcgs1FR-RiWaTkEO7nN5Ctbr1AhG1s-nOV8RZUTTRTOd4QMvd-Je7",
    "PCvtnQ23INv4OAhXKOc23pA32uc4FsE7Uhw0VbnAE_T6Aq4MUe8zabC6fIZ2zZPgVZkSDgeBYlkSzgyMIaetNbzKrbeBXECi",
    "XIoqGkSZShLxmX3LRwe3a-7UNmAp9rIkw3TTzzf4ECyd5iOa00NkfLgOnXwNX6heoEBKDZxJsR26JJ884OSC0yXPID0-Mdi9",
    "xTqD21WIXne1xOdgOC0iKUgcEl3Dgg0gZ5iaJMHObSHXEF2kQSyykgWWIK29bh8s51WpgrxuDhHjoSN_jHMcn7HMV7wiRGAZ",
    "GR-0Dkh6Zy2_XxGZdbpcyeMk671FnPM4v_jNHcAMgaLlB3dedwMXxewED7b9Kb9fhlM4CKAf8aHT7Zoo9DkSxp_u-Vcl0cYJ",
    "ZYkPM6ETUFzzC7I7nJGoobvqPWhFcA53uZqGgmXVbF8O35S8jRTZaf-IDwPXGm5jmQhZ75CrZ1ZYZfUZFg6StTUH8uTxB_SL",
    "pp9fBN96S7t8vnE4KZ9QVXn66294kFjlbe9ym_wAbQntPVmlLir3-DRyuixbD2pkD21LSiae8dnB63l37rUL4dfMD7MzkuXK",
    "OL7xYHvcGR6uQDzzxLEyPTxuUl23ihjDOGRwume94Bg-aOeHaxcinUf2-TzqdnLQqYsMhEHRmztmj-vtI-_UkGcLaMrACc_j",
    "1Sa7dvoGy3pLXYgWqpcLHlrR7qlFIaSn7oBtPrjbOWWPxsmiUnRbaffgjTu_6Z0u8Cnx9sSwS1UG5BD2zS2_WEK6qU5bXa--",
    "M1y7dutXfrUrMgWv3_UbCyBhFI6YeENFdHs7aM_x0FdvMGU3B14x5aaLgzYEZ8uba7Cot0BHXca8f0U1ssmHvVBxjCROyjN9",
    "uBNK8jUOLT6mK1ZMUS1dDSbtEL_k1UO66ehaLGEmTOuHpBZK8kUVfuOpmokkv1t5ntQiph0y447F6-924nEzFrQ0zIpr8YRm",
    "hXUjpsQ1S1FiOkfqSVVR5ffsppKMY025jq3KKwlLj_H7WQ372lrkXScexI6mPWbyXY5EMu6Yts03gpSoEnxXU5SI_CItqY2Z",
    "fKtKNWk230b5IaknzLj-rmnasSTfN1GMSDKuhEzL0kz5pVY8we9iLMWy9KASUyysFpWWa_wCnF9k0E4lFtRNrqDY4aRmmZhl",
    "w3fjXS2uKXxvB55gd8UOJS0b-yIyQQWbY6ihBy3Yg9g6pny3x0QAkpoxhsDK6_BXRsmOWMkE_bIQPY3v5Cj8_su0-T2Uoykh",
    "fsuuarF3O7YZ5ndsITMU1Wz5PoypO4qhK4aG8NNHRCxkxhKWEuJbR7Z824dZs7ABX3ZDhLW4zfdjIoqFfD9H5Pn-DXy0QrqS",
    "MFUYgYzwe1adhuJz0DClR4w77E_AQN0MWbqtI5uwh5lKcgV81sJECKJiIbIRflOmaXwxykzIrzjpl6rIFRQzzOghAhiqPeQX",
    "54yMYsvvym35rprJd5Y-r69bfK8uYsr3Bu2Yzhel4KyOWABYgIjuIGKW8uO7C-wZ1Olpku-4mYammo4WR37h7LuOLd_OMzFP",
    "jyt8rwn2MjJKiK81maF3O6r-I9BlKHz3D7MMvuuiMPs_EuG6YSKLtJmQt94dv9Kxx7uLhPYjUaUqY-9qqmZqY_zuMqFEdH5H",
    "iFTbz5Ux-JpAfWl2-N1OSDdCShCT3u3w7SfkBJFBDb6rmc-VBLxQUISmHZQI4fsPpo2sIUSsFyUeltFGrplxQ4FX0STyQ0_h",
    "e1A3gorJigBwWJU232FS5PuNqvn-8n33Q-lD9sPk-977zvsz_Gu9775vfZiVV84_TLy_wp8LfO5_SOH6pBxz9SGPf1Pvr3Hv",
    "jbzSxKeb980PRczuvb_DKq_l3D5-u3xf42pyxdsPWVy9xYgr_N7lT6x7hrmcdYadLn--_36Jtr3f4r68h_Ww7oc05nFER653",
    "Idc_5-rSttv3O--r7-fx_xnmHn32Qs49l3cxE3bvSpsv5TXueiv9lV7j7mt5Bbt8SEuvufYUfufIS_y5w8qvP-_4k21X79uc",
    "9dlCzJ34aQWOSWHF5vvNz3ewR0qOv8IV_mGsM3L3MznmTN69xS6IFf70sDLtvJLx6X2YwGqXn_aXPx1kP-23Px3k5OfUp_2W",
    "vLL8ab8nrxQ_7S992j_7tH8if1bl3ZIcgL_9T_s1OSvLibyCMftyVlv-zMiJbTmmwQ_82eMYDj7A5-cKa1qOrPAvZ6U_7Z9-",
    "2j-Un1c_7efkrZ78XJKL1OWO1U_7Vz-tSasOfv6JvdakJZWf10nJ7eQ6_HwlR1bllerPa2J8XnpR_zkCdTkSNpzLKy25Wl3O",
    "OpRXFuWsjLx4KgfU5JVTuewbTuStqhyzKmObkqul7tsfpz_m7w_482P2_uz-6H73vn7fvG_fN_Dn6Ofr-Hf1MYfrnY-F--bH",
    "KdzJfMx9nMb46sfCxwzGN--vMW7649THLH4_wtXcx_THSa4hdylwjlxxCv_X7k-w8iRmT2Pd2v0xVsK-Hydw7QarVbF7U448",
    "oFX4lMaII4xs0FpcmcAOWYxr31_jbuHjBD7X7t_KXWlbFuvuccf70588yeLzBf5Pw57MfUPadCH3asI7eoqZ2K0qR2Iu1khj",
    "xc8Wn0hPYAFmvcX1K8y6xL8aruToBS3C_bOffOQ-Tfr181xYuIe1c_DzCLP3frqe4W7SFnqSw59J2ouRmfs6oy0_ncg109jx",
    "6H5HeleQYzj6irmR8Wl-nMT_e4wSYyzz0pB27MnxiDNyd8LoYkYG106xRlracMKc3J_i0zGilMHIAnZNYzy96Nyf40oGPlww",
    "49IeRBT_GOHP1k0iPlXp9xEjjJX2JEYuMX6HOZF2pH_K3RTGIkoScye4Q6uq_z_qFzIyU3KvtkRFA_bBLrkr49CWq2Xl-ll6",
    "Dtw0729ow_8D"]
  | 7 => [
    "RVvLbhxHll27AP1DuBqQyG6yirY3A7KKBkVJltx6cETZxsBjCJEZkZVBZmakIyJZTD_-ZXrZi140euetfmzOuZc9Y6BbosjK",
    "jLiPc859cEyxCZ3PPt2F2jvf2Kkrbeiz7xrniw1druNQ_FDyNI4xlVxsKt71Pme783mqa_ytsbkNcdiUUDp_XsdpKGm2tfyl",
    "Tt7iA7nEFHxO-EhXcpqGIQy7MUV-fJ9CwVexuvF1yXchh6rze9_Vsfd4W6g7Pw23Q9wPgy_7mG7xjdEOs5sH24e6SnGPC4wp",
    "3Nl6xjPx6f5ab4T3jXioC3ns7Jz8z5PPJcl98YYqh-LbwLPNDY43uBzHgptkvgVHuvMp48s-dB3-qFuLE3T7MLi4X1nn8CA5",
    "Lu63xy1bn-qYEt6HQ7ipxj8HftXEtLfJzXEytR2S7-MdDDLJdWndFDub6jbc-XrCx_EP3jq8vQtVsmnuQs839HaAxVMzJb4o",
    "T32P7_UWnxt8H4ap4Ko0QfHisXseYpdsn2MdfJmHqa_wMdoa7vSDhZVcSWGHZ-Y4JTiii_JaD_PhECNMP-B9YbBdN4_4G44L",
    "h9Bxec7F9_nW-xFf1XDplPzjn6dYzo5u8DB8BG8Xd06psXi2ftPfj7AIouAu-H2ubGeH2j_nTXN7qXFW2hSnXXvVeZu9iXg-",
    "LY_v2bpY-AM2wDV59zt4BV9dIxTw8R1O6dPsfN3RIN4zpPqQ6b8xjhNM_PNku1Bm3AGn8jtYIdmO8YHAzF5-MuPI-INWglkk",
    "gH3CEUqwXfKSAE3Y4dO592LPNna0GQMMHkC4dgFBdz8yNFzYhQJLhJrmuRgiHYeTI9Jgeds0jGwxOSNr511N39sOgcuIxCWR",
    "YWsEQ8bBcpkcztkgzvAwGEzuN-ViKp_rNsYuf6_ROuWJHoNrcnSecY-f3CFJJMfuQpwyAjDh33lKL5bl1TfrqTt_tNgnO460",
    "DKNwRgoBBRC0YjpmCg5l9SrO59sSx9g0uLIbLQIrDZO-_5nevbYj__hBU60BnuDw8OYAO-MzEzDnYnApBgfHWcfQ2NFV5rHt",
    "xzMDz_ZwEe7LaLiYSuxt2fkid_eljS7zKPjqSl2M9_EunS_iP3xFX8HBiLMOeEAHi60zo84ObvuFvOmlgoDZmsHvzaX6YRod",
    "oeuaEWK7t4o9xBBmdeyZJMhr5sNlRPDhXPBCBf_6HibLFW40ZY-zEwme-anAT0wnnIVPwgHxqPq2mys82iMc7-GJbs56P4QU",
    "L32t6Qt8GRme922oQnnclbPPj48vFTzqzjJ-a3rVuzgVZgC8Yevb7DxhMB8oaI1TGiOeT5zeLt_ECthvboluyOlWIuQV3BUs",
    "fYIocK23SLPZN0z-fPzFk58OzxbwXxNSf6lgZd0db5Rbmxhgo6dBXLJ8WKXAGREqONk3jP4BKNzRrJs1cLE_D0PdTc7vW68h",
    "BQPB5Oqx2uIwcXehHFBNpcAE8DLcV6Yh8POCNn7OwXlY_rINtd1FJGVwdv5GM3y0wlVHCkESUghF-AUHZDLeMXaR_cNuYG4h",
    "8AlA3bxaLD603uC1BkHmEDvIgKdABjj3kqgLkoSJTWwAo_gp_4o3G9zSIGzsMWAPIYXYrT1eUVpbTMivFdLbCeA3IPMNfwpI",
    "YEPKl7AgqDgBEWrbVXKKAnMIFchP707x5267TB7nHAzBA0GEDEc-OSRzHyYQY32L2170wK3aPneB-fCT3v2NsvbgvTMl3iHC",
    "EQUk087fdzGS8cDv_EAF6_g7oJyg6nEvkcKoTy7v7VDwcfy0w91fIBmaeE9ys0g1cBUcpGAFyroP_dS3CnLAleC6GfhMB_Bl",
    "DgSPcwL5bE-ozQ3-3-EqOIEH4cC_SGrSfC4zwhNvNdeqQ0Ahfpg8sST283uVFbCZcCMxmQCHJ-N9VsJ7pSa4UFXy3JGRTfY7",
    "ZvH7CCgvBlFOgL-ydVBoRmS5aTT7UNrWB3jjdO9NCxa6EJbMg9gqf0Sigr8BmzCas7UARM-QuvO4NSjEncLRHRJPxVBF1s2l",
    "gieaUBxCEAe8VoAHldNmQGA8MPdR8AWRxjuEbAAojndP2d8h4egKIADcKFSHgIYewLfBvn0sTBNH7QY706L3eH9PTYTA9FVE",
    "OvWn_i52yAAYycB2ROneIoeFkvd2psnNxbQD0eS5r8Aylyq-eoH7DAZitNodEa-Ijhx2vx8eHJ49Wox2pnUBURPEBjxV-7GI",
    "dgOVWmKHqDLPJNnRkH0E08Zknjxh4gFAeHeQaRfJRQBzYIjSvAosbxGWSEo_tFbgIiFq8uHK8OM1Mbku1-IbMAkhBbIIQO9d",
    "E2GcBFcOrhPlSB_hgIgc_xzBBh7DaxkMipvMTUq_QJi33QAsp3SYxI0fW83DsONxV23pu-U5QbyjLJSHkQjwvWNIzttQgNeh",
    "9-5b2BTYzMApolYLdPeHFhSXTR9_obqhG0EDlGIIDa_JDIAn3J1KRB21yBhg67tu7iE0PipI2gncSLMiHHAxSKoh1A6ehcLN",
    "9ISDVoQJgD0u0qzjg0d8YALtGKbdLH_4RFphDvUj_0ri42OUFDXyV6AzVABjMwlK4d2ErhYZ4ylTYALrpiKuggZD_ZAuVTIW",
    "-f5Ocg0sc09yck9Vz0P98r2_QzOXur1SOQmKJFq1uD9C7AUCA0Bvoddhf5wx7r17ztwh4zRkezyIgqdBZABtrr3c5Vit9EKl",
    "NOwJHDOfg_unroNjyUDP_ACldnsHZXJwcrjGs1c3sBlRp7zXMuK6-LH1w2LxA_7fxEqKis26_RIi6g2UFxCaFsNRl8Z2Zbus",
    "hAczeOUFgnyxeIM0MnQtEmfE0SmiFPWaIJKsQHbjaIgV5hiC5dYjl0ex0iVgrA4oRiDSc77RWPrGR2Ceeeq7HahgtVpt1va8",
    "7IMos1ig-ee9lWIL8NfA4eYdLWAAUsTjsU1QHJlJy3ScEJR3Ii4BpZv1iHuZSy3uEOvISdfFnHFAvt3YLG8PSJ9EhbVhWpxv",
    "gDUUEqIcHi1CJpNlPYtXg5xSzOIptSrjL05Ojk5OTmDIr84XQGjxWMW4o0pnSht4mXF2ciLJBtRgEEKGEsGKxHxi8HWzqUKE",
    "gEAJ1dCQsDodmAIri-ZxsqCEs7GDHh488oh2OdDgfYb_g6q6iYE5XYeEEM30Gt5woVDyPWQZ6s87BCO_ORFkcp2gkaHgSa1m",
    "-4OChx9u4gyINUKn4IUJHt1YE9x2iTOBWQZzAfxNQTiu9c_-Xa4WEInDP9IILTXycFZZAgssIQxaAwFZFAMyYFNyuLGsKVl9",
    "Qo_yYd_aYaLkoKpHKk5CKPa0ZVq_GygVzQtkPo5PNcP0nUeGG9kC4sSzuvR0w2BCo0UTxFCNsHYMILx2rSggmqHJx1K3nHax",
    "1rofHFmv4IQwLM9xMry1oAbpvFR7jHloyVzwPRh5CuVFGBgi8GHPvCAP2PzFyXh_tjzHLWlnF5hUEJAZRHS-B1AavnugU60R",
    "1OpZoKZ5DQf4-1WjEsDBJ6AzJHgHZqtVsyN6-KMoPVh9hSJsP0wCSd_6PVjQCFTmQumHLxuiTCIWICsLxU_qswKK2beRx2WQ",
    "At2IfJadk0BrielCPRKQXCa4IJmp7m1nGjyX3ow93UmlhKAi_-FFmyqZ9fmmmulM81Yl6pU2O2qKNo_ynbRKYieXXyM98LwK",
    "ydR08xWZCQgZTQ_TsbKZWCWzKEXF0E39AOEv7ITgDWPJYD7Ku8qLnocYYInPih2gc_OfE6x6cLwPrrSnUkYsz1n1lDBea-kM",
    "QyKe84cp3eIQkIWAgrTqieEHogsWi0pjMLLKRIjgvh4BLT2I7fsAPkyuBrJAuyELBNcAObjmZl0SMAinjun0T1MnCQQwZO0O",
    "EdQJgqEUqDMLTZEOvp4e-iGZVdEtLvZMm1xq1sWpKWnyR3wpoqDgECH3UlDBVWxP4XwQIOAEANIXeHuUlFl9fd93Brnvu1Fq",
    "NQhYJB1wBU6CmOfPeOjj4-PzwxUyNh0kFQltFMb7UyP_SVn9i_8eRRDVEAwHSjU51dvl-kp7SLDnyPZPEM1XVAheQVCF2uDt",
    "zoThW9hqbOXNFJhaqwF4586fWyMy2EWo1SeFhVc6Ms-1w9OgtqMqY8LE9HJiOTRfhCTCx8tVEDasXN7QK7671rbP1UNj6Qiq",
    "yhkjwbB9aP-UpK0r3yClFyPF-JC_gSAHfFxoncPPIvyZNzQdG3JxRoJY4QCBZv58JnpB8Ya8gkFQmYMfEGoDtSI-AhnK1H0z",
    "ZSiT_IOWVyioetGm0r0jW8OerxCT3h35n6Utsmad-9EiZVyM7A1A7R5cgMAgppmiCDftbh29GiTjIInpsZceJJ7jKyWwCzYr",
    "-nnx2Wcb1OHPUFR6gJDWahWg73Z5Dr1Enhbd84u_QN3X2v7A31ME_6oJNE7y6EOhsYPffjM__nS2eHbx4eJH82fqROgKqYtY",
    "VBSc3iDOiC1sL4DcPlY4y-0TgRlg2T2sjRhqDigbXhU57uM6jvOZWZ5_8EQpVBOIl3fa4_QqdPFZYRLK8zTsRP2YiPTEP4qs",
    "aOaayMes0r5UAefvB1bVyKMw3DE8JVGHHR2G77WARYTw0qAi3i4d_NDFUd9QcAdGgEPColBE8c9TjO34NbLZdjWL98MzQQpB",
    "JWOhIYjzd0L_0jsEvV5o99WylAQgag_JCqI7EAI10f7hYkIzWZp_zSxABLYeUOIxtXHoujxTrciSFeZZiE9NjYPFPhM18JTX",
    "gbRrnpJhY0M2lPbiAFX4NWkQkXLLJuUteMDZ-UnWOsAUZl_Z7hVNyfLvw-5sIfcDEckNL-CoI1OniVxgK4Tm8px9TDwX-LHY",
    "5LrRIpuFwfTvQjMLtx0ZpCFbFKIVt2bxaMHTl8j6Nr_Xiv1K-8IvVGtcsVHgqZjYGfo-JIaWthRY3BEZrlSNBsG6s5FSocx4",
    "MVuer6VaNXfkDp8vBgimYVZ-N--1tfNcq3ItP3KtUQ6nI1JUirGBIlXPcW5Rgezfqh4EwDuKzIfDoDiBikWqwIIZ1S77mMAX",
    "BFMW5Ktm8i2sxG4anon4REDOEJ9sBfJ7eLhVPINBoNGbxeIaRGme1IDP2ydEfVRwt37GE5xwf9fVOCR-8oDgc3jG7qTfG8QL",
    "NL_BdaDBHXQgCnP_1QllycNpz6T3Cj7qJpgiU0UAjdiN8F1zrV2VF4g49neFhP1IEM8tO7CgpcL-EpQsJUXOpHP8Y0MSS_nZ",
    "dEtUHH1E7XMkBXEoe4U8XAE4OFsA301My9NlW8rINyMT4coJKIzvF4jhyIYzRxRSODDR-XTRdcO1jhPY78SLujij3JgbrS0I",
    "8hA1XuuqPLHR5K-lisT9JK7fT5kio4vsrJaLju0UK2QjXQ-WV6J9l-crkaHORdFZjRqkAozhZ9gPsaV9pox3qa3jXWJPKB8q",
    "2eAIDzKtQWlMlaDQxZ7cKy00m9AUcC9yZQ-yXM22jXHFORDO27CJg1tUCMqECG-IpihagN_11rzBy1dSZAP9VBmPVioNS2XX",
    "sYeSYIIZlyYISP_LVFK2INxoyKK9ANPSf7HhuKtnwwaFArUw6vDdOWla2ImHBgDGyTWJrRY87I00K77gsIv9HlSQIL2n2h6m",
    "6o_yAQgeaGjJW8JThnhOlEHu-dtnlBwN22nZWGKAd6-17_0SXFhaQwoGd-zlq1m6TUDThs3Cgb0ZSgwLOb08z3KCHcpESMv8",
    "FKVh6A6hLAGMQGFoItSbIGPOzuAAA6aZEB3gKngYyN5bBC2CRVt6VcS74WJyIyxhpc7RiKQMhe4ic7lYT2LIFveFQABXTrk9",
    "aCbtQJnvPrw4_o_l-Quoaptnsr3IqRs4032nYw8eV1oKkUMenSkaaQbUfhJxYd5oPb2popvPF57FxFAqL701YMFlpIa9ZxCR",
    "7ftQ_-lE_mPgJfalHKSp4dTkzhthWygWBItYENrUbDMscMs5UOFM8UpFKQKPvYVNkfc2kzSnOQgTJnEO9AKiZY0Po42oZFET",
    "IJSRK9JIZo55dumEUaSNVjM_PJRFljLiuJo65hEkEJNF0HQBUxqqscMVWPPgUJpGh2fE61oTj6ytaMNpKukohV8IRCSAAggE",
    "WZ0ttDOLXDcEu0tR27li8QNSnKTQVDR1H7QqQPpKfI84s3e7iOI15w92x_i8kKQ6JW0BWEBShMARWUE_sKUehq0c9PHrQJMO",
    "e2-YEpc6j_t2AqrnXusVtlbIVTKZMED8zLMA4ljAPSfUPjmS4EM1FfnT3UIY0jCAeXf2gVEVPsgEUAVlaMejZI6K4Yan0EX4",
    "KQ5ZOABn3gOaNQYdeSUMeAp4O73QNtMNp9eoPoXLVystjylNEAyEZWpHbRBF6jiQJf8oUSrnpZHxTYJB2JaktmGRncBzEnXA",
    "kLlHBEpB0EaWLScnMsSiPID6VT2-XP_ZbD7_8VKKNLON0hwxrF2RRyPDzBlVvyxb8v_RSzZaXAAM8YG9DAfr7CyP5ohScHln",
    "9_wABKT0hx96pIJuBnqZHbrfpWt3IH0DMmETq3i_V6rTizkQLYTx8Mq4iNIkaXN8ZYSg9_vVEv6spCBGERq6Ek9pN9h6ZaRx",
    "pu2i_Ntvv_5-tg8iAWKT50HNwzkpBOsdu1Sc6decA-38h2QnAVID2v3_QmWDdLqGVLrQLriWuSutBsulVoMSkEvzQ-ggPvo8",
    "oYqtMlw6wVsVeDiOKFQgzMrBrosVi_rIhmRmtuNkEEScpF_qJDujMO047mloEPbsUaofa4vnuGKvOW3WXThfLFZG2otIPEYx",
    "4JeN_ucPPXH2MbK5C1ZqtdF--mfsEHrs7KWpE_WcpBlXazZSFIBD8D0CYcukjyg0KFGOthpEB5yXEKHpRShgQxyHedYw3xs2",
    "KwfzV895Exc8UMrkZoLR8DDppbunnr3pvF4jzTdrijpqG4EslulE4Tb0jBqWERXcKHXcCsYhHOLfoaG9XKvEvAI3rzvrpPkA",
    "3UBVovF1GiSg59c66bVGUuGlT5XkaAq3iGRqB3il8-xJNx3J_2H0PWa4BukknbRkFD8Ne5wo6aAuEKCRTVEkSVJNJLNxYzj1",
    "6MeCEE6CtOC4UP6qyh9aOA4htlYEchKWzw88QShByVxkuO6Wh6s65wNpBnQcbhNROi0x9NBHV7o1ADM-WlASI5K2S6N8FgZp",
    "Bmx0jHEphcr355v_XgMS2QLiRFrFOvgLPwp5KyQMauU2wedb8wRfsx0KX1NhwBLHSQZcF8lWUHJEYdy91nYR1C9RUaeAx88n",
    "0JM_QiiRN5AhTDxSJlLtsqPlgNnS0UXCiUKS5i1ATDp048MsUhkPV39y-OPJpVaYMjeM-VzLVrEEu37QnlUHW9OsslmBq0hV",
    "sBrz6dJ8DQleTYAIhBNHXahzcC5D-gJvAirtjJPZgUOQlqZuRVaISsDDt0sSkc6kuOfx1FaoZwadjz3AjLQbOIMtMoK7yCJf",
    "a8oWn5l9ITF12Sdk2Y34eRnpluHLh85lXVNdOJmEmV20TJkXKtMOV2wcHIxEMzxee7JIs2-nboYZ_2KWVLgccLLtCrXGphPi",
    "USphtvoMXZye_OUJ6FAVsWk8fs6TbHgc5gNC0TGr4BXOvG3XTIwvs9GQotiSISR_8mDJ1thnnzFcUGIgacFWbmVkrlZxzgIt",
    "TW9W81rzt9qJ8gEx0OGvYCg7WMvpCaSfyoMvx3vz1Xh_87Ngq204gLMjor6eVyhUqFg0no-30pM7Y3ySmiBE_LDSZxqhSAN1",
    "0IduPmKtc7pem8dDlcczDlK1ScYFJCCYN5ajBm62UWfhe9qBNCRhNn90tabReCE_Duz4GrY9aHLSlc4P9yor9q10YTnrQhZX",
    "6XyD_2kvx-iEeCskBQUxsbb3IUv_zIqLzIXrQ5J27713ZwNeiy_e6I7SFeP6yBBJUojUUhwhJiFY5Due6rZL2mUJnK91GEz1",
    "a-UmArKifgWMf-esxcBYPZV_CT15UwqxqWTgUm5mPJa7BaJfgD1RirQrHcdK8A1smCH9e8omDlaCiETEG5vaLzicRfEqnbmD",
    "LEzKfuSIx-ieh2EwkBRYTXDkyrlzrh_WDHAHiEStlo5ZqMFVqJLBzXOVmNt5rTR6mSIObM0FtZT58eQnqrxQpBwUgIAfvDDd",
    "4a_cHQPGicDqtNTzhSsh3Qv5b6k5vezADsYaADkq3UwlBfNwuIBA02Fw6hXBpuqYFVbysstGKYaIVJl2LsuPuJhno2T3VkcG",
    "VDq4PaxLY_wANBqe5Lc6Vn3j71llyTiBdYCwIzCLoq3VeozKagrFabt9JdXPr5T98IoQ34wclM2Qlfb-zSse5oAN07Q8n_Lq",
    "BtWguWZDmU2LO6EAsC_YCvwJ_1H6QvqwgYRL61TOGB1HsGWCsDpYPnv3BoAnC4eS59yLkDLH_FXXNkbujRYOkWWfKJJ-9yqh",
    "z1SmFfcA1IIhQ4-Cij2PBAijHpbOl0bPE2FRMDjXH6EguMKF-jaSPg1Q6A5aWOviL3fSixkvdYVkpauUmQtMqk1h5c1a5o5c",
    "OiTW1fIU4TZOKoyucHF3ILNUaBl_sp_FCwAbdBduW2mfj4UUGHO7NWyrbDRcFxu29jjLklGtJKNRb6xEo8eBxA76XGkPkTMs",
    "VjaIX3yCkyOQ0AtBMFybK5Wc4PDw-PbU5xVxUEJMNrQutVuflzLv4KFxGwYpMpoqCx5VuKfvGMKMk4Ab6fwPhi0wFmMX8q9h",
    "05erJyLTdGz1sVJ5AB0c-h3QW8S6KPd8ZI3McPhxmOKtlaK3xmNHnz4AEnByebQFWu64FLWP0jc_YAZ1s6oKgRrc9VgT8CpJ",
    "fNK0IisSXaVV0kfZwfJHsmcha6chuiP23HV-q301WRyU4frDjidEVKRwnS90EaXI3HC-Va0hFPxowWyCVyxXr-IwTD0V56Uu",
    "OEqzP2Q5SwAyi5Bg1wZGxY8f4R9Ree2he19dP31rTo51rzm_qzkqQ8bPLNI0Aww7X_jAM-06eDb1qFhyy7ka8IxbUDF22mbC",
    "l9tQZGeFC1Z3xAldLRVCMTovzhp0Cy3SVoGlI3hQSy_lzY8WwiJCsPrbDuWarkIdUVHjYh81QEc7sLXzWvj7SLftQLBimEoS",
    "r6-j5TyBQQNxojM-wzwTmsjUxpWIbqNxlkVNpFnWH1I2OiS60v0lgAxdpzvkjqNTWWaT7JAxfBi4pQehQoJmx0xb4ghjFglM",
    "GVY-OpiWnaCu2wX2LO1O-9CsIj1SBo8mg722ois4Ep7KSxgQUSDVdTVzvKZVD6dhLnBtNVeyxjRL6YNzCY9l8AjLR-bYjuHB",
    "7uuQfEMJp-WR2X53zc9c65hskLTIMqNFOIoFVkQLvE8n7QjoTGGduRzdSzbiQSqe1oorHz9CgKJGeGkTIM-tR6iETjFONCW7",
    "q9z14sJFxNmgDm9nOM9-B10LgSYDzUeLi9KxNSEj7ClLy2Q-GidBJtl9W557tvJgEmhmHANynd1wRA8NO0bhv_ZhYVtAwHiU",
    "vubXhe4fQVJJ9-5IkpHsxe4oK7UffMWo5PjeSky8hK0FiWRpQRc7zK8atNyjY8-jkd1UGgSEwgUsnKzXt3Mhac9dnJJiKByx",
    "7mBZ4VIeoGfjmraP6bvMTZcN2YnCOnHdKx_rllirnT2Ie56M1aeVUS0HCNAjFLy2SC1D1ma9JFOMHHS5rFFKeDo1EFdM2lvg",
    "pDTfgdeJ_o-XOjKQKifIDnn89_K40CeEN6rbO4h9jqGAML-f4dqcsBk-CKDLDSGOzgau_xIH12XyFOyQ2hyEXyP1etn_5Rjw",
    "2GysaRP3gqYeZG3evvtg5NL-SHxiAX6J19RlL6mp8Y9SSj5aKNmvWs0OOSGnYIHjmSWTc3keK-gn7yRFS1ySHpogxA4bPeey",
    "FgoxS40SBqnkic0IfVvaDvr724kd_PRf7L1_biinYG2uIMj6L3HaZN3Sw0kpNL7WZVT9fYkHujYVSgOKKhLsdgljyI2K1NXv",
    "5dctjmTHLJl30kg2uo-yp1KFlJZGsjWj9qyiAvyxOvBMV4-sdKfx2IFmlf0Kvx-ViyGwes7vbtnzjNbIPsVBEHJ7aCyc6ezb",
    "D7_MXE6SxgTxiuHzq46FeEo7zjgG84qdHemqs2e_gNzghNRKK9L_93Ry8tWllZ6hsbLp8Nlnuq0qmQkk3Vxfvn919eG9LrAw",
    "AyCTZek83j-dX7mD5X07wZr5aK9jTpwlS1A2BllWR-nvqkDN5js2dGV2CPJm-wY-EhdXeDRLraHRQYcWtm4dGsCTl54VKpLY",
    "UaPgDZzyWU3YSsf3r3QMLx3jXeTAHgfVNDK6R7bRnoU9e7wrZ5s1Z-WpZNmvskWVg_4KQOIA_he_XUp-r1trpGYfdbv2Jflo",
    "yw4Z7Qw8Zzvleysrf9sffzo7aKbakubz-lza4Wy9gVFfqV0kHzaf6wAoG10JeerDjWxWgQQ__Y_TtX0vPY8JgHoLjN5ZHzqU",
    "KABHfK2NN8tSy954_vYD3l8SZMZN7D_9HZo_jp_-tmOFEVBycEma_GBjXaaKWlRWhPkIhr_8AKCOki8O8utKkb_wwl2ZZO8-",
    "_Z37E3VAYSvfs_o7VCA0rnJmsFNw1unehR0-_YHPRVuj5IZo__QHd3V7HAIiJNJaNttuNw2RN_gHlyVvpCYSTdxGtqk__U1_",
    "q8hFC_G9444ogzVD9vO3tFoEhvTQ7nRdleeMn_7okIJRuCNm_dWmqL8kZPvpxutvnSTLzU3OIiMOhBqFzaQaL-LKNLSp12ZQ",
    "729YOTagNzyavxTx6Z-xyJpOrD_9y4VdZOzgYV4K4yitgYBHSzMOluBvT-0mNvCT3NZmqUKi3D14KfODi_KLXAC_T_8oE8Rk",
    "HGBX1OD4gIvSDLiBOiGvWPltK87b-D0rG3IAaW7dxAyDcRkapw-f_jXI2lThvsOAA3Jmk2Reyk0t2LL-9A9r65o_idoHV08_",
    "80DMW-5FkNN9-vQ31jopAEvhN5_7B79Hl_DxnnEzWDW5ZRTgLKjN2M_E3ys8jojz6Q8EZzchQvA5HlfMatP_Ag"]
  | 8 => [
    "RZlbbx3XdcflW2wxce736-SkkCXAJB0DBVLx8ACJ7TYGnDiwDPgx2Gdmn3OGnDN7PHuG5FH7YFmyrEhp89D2AzgCKsuxbMm6",
    "247zwH4A8o18LxD0U7S__5pRK-pwzszsy7r813-ttVmFmDd5KMdtzEsf4yzMfeWmPvq0rfNmUbhy2uq-cWXm6ix188rl03Li",
    "XdPWPqau8dNQL_xO4-vSFeksL7Lal7zy9ZbPdHV1OvM76Yyl_MRtBdb1jZ9XBXPneZE3rl7kZdbGpl5oVp76OOddnbuiqkPW",
    "pk08vcwIv3MyDfO5L5sYw6TZdrXnvipYLXWFl4BadBLquaubPC18rP3rbV77bB62vCa-3qKK6YuceTmtAvvnaaxCjPm48LUv",
    "8invq9ki5iw68T4bu3Sz9tM8IlKVp6Z3lkfH8Az5mpCGwrVZ7ksE903DstGlTb6F_Xxh28YCK5S8cOWimek6RlsGMX_KchHx",
    "UNxvz93UncYTKFaGOZvVLte8SoPYeMvVeWhjMmR6KKcj5le-bhY4rqoY14Spb2a-dtmWQ5xs7GduKw91FrbLIris91s2CaEZ",
    "u6KICJg2Pnup9zN6NZpYI_Z8zMoIuan9XYzbLDMPWT7JfRabNpNeGcZNm2IxyaczKV6GWtvjisaNXfQTmXvLFePaO61TBBCD",
    "ffNSePFNhvySrZIxcLzfyjPZcdKWqcbhSGAwRR5cVEaPvph9Hks_ZZ0tb_Zz8-jAHh7D31g6ymdl6evBqGoBHw_k5zQXHuRd",
    "cIo8mu_qaSsHjUPYZC_8PPF17YXYufyf4cXIDL4WwgEruRpssu8GikfcNGHlZkZsCI-mFzpn4AiXLuahLRtcGMb67bP1ZOIw",
    "-hoYPY4vE5emvsL-qatcCl6E51bQl3W5d3md1m5i4RIWhjeg6rOMOMWyaV6mBZ6IPJflslmIFQFVsHcj-YFm4SpisGKES2dI",
    "32CYWIRpGIyGLnMtjgMvbTML9SBJ2wJ8gHunyPRxNZ8r-ldxP3goFlXY9vWEQZ7F8OcEdMYZ8oCbGjukdd7tO82Xx3m5iv0l",
    "74M47OCm-FPkGq5NbuLFZbK438H2OfISZph8MQeRKKlwEDAb7GWm-VUfJ1lIzX-8rIW_cWiaMB-Mwrjjn5PJsdfb0KyJnyAQ",
    "7AfCCKBTD_gD1sGUdeZT8zNaeKJolnn8RXzHQsBGb4hQcdiwENMc7MjAdOHl5ABzKlAZyaWMQKgyXjV8wl_4BZc2suQstzgl",
    "_kMhR_vU58aTBbENDlvkLwcJQhaKA_him7l-7Es_yeERR2DMND5F62KBjXLF6wQ_45psjmtyGHHcFtCiqMPwgZlM4qyLO1f8",
    "zXFoKJ5YqX3VjgHwaNjUfDLsbHwkZsUomZYTF5u02GfYFkmerQ_wdyrO-iXGG6660bYfo7AnLhtoYjO6AjwBLaEY3fDjPIjP",
    "QW2UGdgH6VpvPOkHo8g62zPXQP6NBr7mxbZlkhAEhV8fvNTzhuaJKhSVDIzP97y2nWu_JqnlhMFoaQ4LiKe386yZJeuJeFOE",
    "nZdbgeDItvJ6inVcqVwBzmYECCbOwJciNlq-E5_Zrq545QH_1yIAn5kcoQC32BX7jHN4L3ML4YCMuAiTCbh1BeRUzcgvxAVw",
    "J591eWYhPAPc-jfEotaPVcePUGUOd1p0ga1sZaOaDpLV0dzCzcfh6uzZ0VKSbPqF6DhOatJOVizG5CFwgl3nYwsLDKH9xCfi",
    "C79TGc8TZa-34i92k44dbsCbK1rZZ7hauLEvRvjM-HFcI5T9F2NGcj1Ox2hV0fIsrr7EKkmYJL_0rAzfDpLSzfFXcryLO_TP",
    "tB9yM2K0ZPm7Tj1Gx1i56_KHnJAbT67NvDx4MgrkLWShqkFxDfcmTUhAwUxUXrlG-EDfItQnk59MxedgJrZVVRjPF3mnT1uM",
    "lo4eHXbMk8Cx-WnPvCJYHt52jfHYsMgN1_ghJcGlKXlnoUQOgBWHQ4Wbr0cd_mKjyfJXqvnH_YkI-JT3fpUjsS8SKYnoDevA",
    "Nr6oXCY4nbT4Ix-vRMRsjg-K_LQh7GWMQLpNTvxj7SHgMp-LGX22vHxs2qwtLVmwETgsmmOscqUqDRexHVseekX71lmiGBIn",
    "KU-i_0JxLIpSLla-32izqfgSPSDVZmUljVHrJH0AA28yOHxOpUbsD1ZHiu4nl8x6tYAcGqgw6_JnKAGT5amV5MVTv_h18kyW",
    "Z0kZmiQvuzpiuSv_lgeJKkmzr9sEp8_1eU72xO1Rg4BbnCufNErBzvKE8QwB-SI5TdGq_KLCsCt_isXJ5ClItzr5lCKsap4y",
    "bTE08WdXhbXi9RfKS3GWdHl1svh7l3rl_FJBiIe2_MzqReRJhauf85g8VuLDrGAd6gDDx2u5CHee9Hmr_q0U8JaX4IGU-tXE",
    "TphmkT0p_I7qyuf6Orlw27XhqZN3RBSAnPWB5Wf8nczdTj5v57M-noarjWA8OtXXxTPlZTJEl3_AM4VPpgwwU8FTxFVQCMeu",
    "rvYFcKg6_pJX2yl1AXFOeA4Mh9xsi53hZKs2yHdArFSddMrcNkh6Hs3ErhRZGf4zXjw28xiiWiv9dvI8ug2SSFytD9Q7_BoG",
    "mOdZVvBU2BKCZtz7Ep6HfqR_1fOe3DWBgQJJUelX5i1DTtotNyM8fnRoco0YZuk5qnyFZ5He-DRXZaQaWCzhGdTZP1JS0KVY",
    "HMB_rlgfWN01eCFWbvdGKPo6kZp6PM-bQeLrjq8UprbAYl5RGMQgfm2sjwmUkr7PL8Oq6BNMY2FAWqeOqBcrPN7CPEkyVvqs",
    "13t4xI4-BqOVpaVTpLqk4z3qizY3B5Ovp0pRKxTy28dPrPXyZ_9AUqIcSwyXVRNf2HFqeMhrhsP4cs_ziIRm5agLN-ofDOyQ",
    "SHWXaNH1dZAT3SPg833dpHJIhl1JlpZenfkENGLDYvKc4hK-pCSb5XQtLxBsih_4tiXDuEokRtxzVSKfZnXHhxOqWJyy6FjM",
    "Z891-ieWD3HPKy35z5XJ1PRq_PLPfva3f7f8U_BIncd9V3dSGEMsWoeaHP1OPpP0hlSPJCynnXxx2eBBnc8z2REHqHxLrI37",
    "_3wPbAoRFdNULVC_dPy20ueLrHILKyNpUMBYvVha-jlFd51MW9Kx4nW1yVQfgd0g_Pf4HtEPe-UleKpSRhM_img2ADdNAf3L",
    "htmJOoTGLK6kAFv1Me9y8ahleuwy7NLjUQdvdbiopBJNj0XqWhNONeKz4WpUvTIKm4WjV3fCQTL28C1K4u9nBgmLrw-UJFWO",
    "vNLjlpRJ1oNfjm9DdLNkJen0Ux0iHrN6ivWpE0ioihvKvnqR9HgSn9UhzwZU8elmsYAXvPW5akJUH651Dk_WuoT8k6TL4-sd",
    "r7ni6R5_Cdqmm9Q1RO_KRhzQXVAyqv6EJCgS6Ivo5WOzkrw2o_5Omhl4RJHMGproj6n0Zjt6uucKNSVWuDTeos3kJxCtX20U",
    "uDF5ucTiPjGxXBZeNj6MA51jUOcUwx8vLydQGnZV-AyH4xrGenLpt1Wo2ir-U0y7tv7pXvwelslrADZsxwQRLE77siUZjpNU",
    "chW-n9ATbqKERzHv-_gd5pNa0EEG1XlR_b3kxehwfFGoT1Nd1fX3xeLEShefjdvRwcBi3uJE3vdyLw0SddzLUSzf7r4HDqlO",
    "i1dD0jeqHb6eXKJsCsTlAtbEhHm0rpo6egLIF-OwQ1FZZE_FBFyR98Bi5651UaUM1_fb82qHFrZslpPfdOtvgDKVsb0-2Zbr",
    "6nXyxryC6Yv-fAAc4VOfWJ0Fr_U0-YztY_imFc8Wo2HXCJnZ7HxHByiTfGepD5Q-vSXDnvAnuaWliNYKhkTuK6CRpC-s-vIm",
    "Ad9BvN0qFojbpDuWih1fUtcTKJLD6Fr1HfWq0l5e6lSJORQMLBcTLE9NMOrqIOqN8pRlEgWN1UdY37OunUtI1A6WseetFfrv",
    "qc9eJHkTeSQONQUP3rP3IHbwORFXklfJLUlF_Wt9k-yEn2I71aGccEOPUqrphexBpI4RKLTEdKoRNxzw0GleyLzVgF1_OZq6",
    "ebehcORi8jSVo-KtxxO8H0UcsFqwvroJ1cmfVjvJSj8AIQ0P1l-tD54t3OmFmLXUORsGMvvih54GBlbtkM-PleNYrQ1X-3az",
    "f3_y2dX-oM-KPXin71sTnVORN5NjRbOmUO3pfri6QV4j3w5X5ZfR0vG_fvDGf_35X08c_-v9M__9p387MaO4aeJmnvd1Yx3m",
    "u38s__Nss_tpvbl7xR9cObhx8OHhhQY75LtXS2pW9WuRJBDdBvHY1SfUEfDRLMQSs1qfZnVYHno_UhS1OpF7EBduGsa5GiRV",
    "JXgf_9Ov835L55NsIB5S_tSRTbt7lfWt3tb8hRqh3gyh2v1YbTmxHgOlbl9fKO8aT-jctNCxg85HcL8XDnTS5Pr-QicbaBD7",
    "8zIJ0uRIV6oaYD2rt3ZvWp9BZ0ox5a2xcfPdqyp8t-y0BGIIECBdo87frFHzTi1L3Z2HQk70cWPmWZZCH1YJdgzaBzjrzulN",
    "o81jnXT3Zp3RmrAE0px21e47ql-i9sFEcVwEHEvSV2JBPleQcQoVf3QFqGF0jJ_6c99gdSHj-nvndTApf3T2c4H2iD42ON0g",
    "47iNKWmg1o3kMa0zpz4-lz27PoQaoK3MjnPq83r3mnMyYpk7nUtqv92PdTCCX5wkyoJDajwS7biK9xOdsug5zpa_Jv_Xb9hR",
    "Ef2nPZZ_sFaIxGbT-1E2dF0f5ur-PCZ0pzS6V2fZ4U8F3sbuTVxl59HUB01odq-mKjB4vwEegsqsKfIzeOw2nFrXVu0T-DAB",
    "2iY3f47hzWb3GuCnRZB9DEJNP084ytUo6dw1CM9FrsNhqmVsDtOJE_QFfO7epIEJOukxu4Ew-RUvEmXqr2p3GvvASGYn8wd2",
    "ClVnf_s7Qq79rd4NTcjcFuvQuth6Xn3TOK_7c0FndY3FVRmp55zrYMqo3Ws6iMx2b5IGfNxo7bQUhyP37jtlpdVCxpaYH5KY",
    "y_jqF1Qv0yDIPmOdxLBbyzb2UvnQdf5X3yU7ZvoTSD2lBxMSgxVnQpedd8IdvT9Ct-81moMt4cWRr1x5GtxlXoWpnXeLYKSH",
    "x95ZPtm9Rimd5q1QauE7bRm_pWnIRZhSQsGWhuIY0YnccNr-PrN7w-nvI4GNrb5vXHfe5i0TKIjjPKjcDeR9nfgSlwQvnU_o",
    "9HDCv5AaJq4bH0UvGTjo7OP2bu59tndr7_re7f0ze5_s3dN1_8393-_d2L_E_We66n7_n_ff5O7TvX_vxtndTXtye-_P-3_Y",
    "-4jnt_ff6sfdtzXv8K5b5163z_5Znmt8vx6f7v11zeb7H0yae4ywe41lnVuMPMP1PpKcs1mf8fy21uT5R9zd66_3tdP-G5KZ",
    "O-1vcu192r3f_xeT_UK__739t_b-wriPbQ-tKLml03U-9_bf4CrZb9ieWuUsM_iOnLdYmTvTmpX2PmFtSS79PrE1NP-2zUOv",
    "Xj7k6cbsv93Lb3JIPj1h5W6fS_vnzU6X5A2T4iPubyG3vbd1ZM9L3fqm56X9C729PjX_3EO3653XsPtfTJuPTP_zfPvMNL7e",
    "--XS3l3docOn8qv8hBXP8raz3_1e6jexFd5hTDf_s17f6_1V6HnDLHqPtQwX9uz3wo3hSFLc5aPdLuzdO7hyeI6ft3U9eO_w",
    "4sH7h2_x-_7BB2T22wdX7fl1PWHURca9T7a_ePChPf_j4Xm7UgEcvHdw7fDs4VsHtw_PHFw7uHp4ljfnedqtf5Gfs4cXeHLr",
    "4F3eXT08Y6td4Y41bPYFru8cXObtn1jxA9a90n-uHbzLrlrlHDvdYORNxt45-PjgLjLbuodvmyxn7Y3216qSVPPvMr-T_-zB",
    "LT43eHoRPc8y7y3NZewt1kUu3v0Hs25KUq530ejKwXU-0uNMJ7-kRuL7_L7BzzXGdPqe4Xrx8E3kOcczrfcRe-j71YPLNu5D",
    "3p5D54tm0fP8vo02N3h_l_HMZf0rNvN92YOxl_HEjcPfMfe-6aS9r2Gh-2aHO9zd6ve4yZxznT35fGCzP2Sl98zKGnORfWRJ",
    "-eEyd3fMDhfMp2e6_W28tLvMkzu2rqz3gdlWfnm3l-9K917WZtTv0OUMVnvb1r0i7bUP3rrc2xdfdPKbT89LH8bckR1tFxAl",
    "n-MP88uR_t9D_c_D_c-j_c-Rhx5-5NHHPvf445977NFHHn7oyBNHlz7_hSe_-KUvffHJL3x-6egTX_7KV7_29W9881vf-uY3",
    "vv61r37ly9_-zne_9_0f_PBHP_rhD77_ve9-59v_w78He-j7Q1wf7j8P9Z9H7N2D2_7bE_3PERPqEUR57Mjnjjz-vw"]
  | 9 => [
    "RVnfcx3FlX5eVfE_TO4DJaosid2nLev6VgnZDmYXLxWb5SFPfWf6zjSamR66e-71dZYqm13AgMkSYnA2cRK8JRnHWLIDgdhK",
    "sB-c_B96kGSxtfs_7PednglV4LqaH92nz_nOd75zxmlvW5dqn9q2Ds5o_0arfTC29vqN1jSVrkNqq6qtTZirqTKlGpe6MHlR",
    "4v9w8vzJlQtFqMpKuQ0dTJ1v1HZW6izHupUOBa6ktg7K1NplxulUlm7HPnVmrFU21S4Yr9NCOZUG7QbJVJWtPjEYrnhd4vHR",
    "WuuDU6VRgyQtlfcnBt6EVnEd1YbCOhg2sWVpZ9ircQaWmHJuG-3kGaxclrrOdaanusTlTNW2nle29ZO2FnOS_gecUDWqhhOw",
    "ZZuG1mmVO63phEESTChhWGMD_jQKh2zTaIbLWz7icQ5bZ8rNU9vMHf1TqjpvFZyhL6Rl681UnjB8a7gysa4aPbPggwqyhQqy",
    "sq1fMDZ3qinmbya69Dr5yYK3ZSsWzgpdJ6HQyVqtynkwqce7TYkVPA6Wa4dzefxVlibozKbRsKYdl8YXGt5prAuqDo2zwYZ5",
    "o009gb_rVD_r1ButXR2u6MmEYZrqXCNo8N4c_q89rUXEYMakLeUKl7Iuh8Mu6qzfIsPKFaJdB-DJlLQ1FG01rgGds9FdZbI8",
    "gWV-8blVi_jLcSqTx3ipugYSU51NrCUeRgtwnW54q0Rc8LCq9YVG13QmbZK3Jk5VembdBl4BIKybw8sxOmnrHKwp54Kes3gO",
    "0IPjjK9wihgLehmedXqt1BdUneHYTWNNDRdifbhNlX7srMpS5UMVgwQgTSYGuAx6uGLFwFEAYOR-ZuBEbruS6YmCv5Zfcdqb",
    "DFdgUWnSjRODcR9lCwe4GbIAmK0UXXca7n3yuTL-RQB7PrM2w5HhcSIA0QPEMo8ECfNSjxYcgcjtT-pUI0QuaZzG7ri-rqqx",
    "M0hGi-NwYf8CQFjTj8DhpOWCo4WhIHuEt7zmkbFXyYTNMqt9UtuQwLNlNoP5dImbKATEevGcr_XMNwqWD1cCqWG0UJFJ8L4v",
    "zYaW4GK_mDITg_im9KbkNsMt_54YrKgxzkWvnurTqlHO6zN1WMSRx3B0mLc1d0iCxV5iMs5eyrP-LMBCbASgF7HFdjCJ8NBZ",
    "mNlkrrHYOQNcRUAiNripZ4wzQaZKnKvG23gEMfQ6ewHZiL3sBPdTDaxlwc3BMNi9hp-RZG7OBHBqDo91p_GnSnNRjbHBcMUI",
    "JkeZAasA5XjXtwgrXl0mH4VitWSGkS5-qDskpPCByWBGah0WZ1aTRU1FD7qp4cumZh4jTASAs3U-Wu_5Gd4wuQEDlDa60POW",
    "Aa3ocWvKDOZ7xkPCWduktGSMsc5NXeOeoIZUkDIJQzLWE4cigCtzMAXSCVgEAKzENHp-qlcdjc2EezuEG9hihDfA67XBCnxB",
    "UG5CgsWxsr5gwFzYq2W2lUAbagWyG0cFeemmgJdxyArOa3TD2sDDo16Au8Cnz2Fb0HOdnLYurgzamRqakenKpnhhPsb1CL8L",
    "IdKFb5mV9ELbMHY6I-G3CL3_Ww3o9gJElckEUbC5UnPYfKrOSXEgblCcrOxTEF5bMlNmdQl-QFaiQOpytOBb3wAUJBAH_x5P",
    "nveNcaxc5XClQOUbLSxUJnXW20lA9LOWHiNaQOA6w-JjxKGCo3Ta0tGvw49uvvy6LxBgXdgyYwobIrxBBS8IWpK-MHamiQ0g",
    "s22SGLApyqJgwukKyQkn4FxG0jslWbP0v6RAMiCBRFWWSC80_VMiIpkqc1baohIGwOre6TGrjK0ZwQnpAuGElkB0CISLTFVT",
    "T205pcMZAJ4COEUyeFVKvMg_i8g9HCkvJuDO1kXBQEbT2XPHkllh0oJkBVS1Olui55iwp_XYtUidpEaFY9FLmGQTqIDjtFnI",
    "DgmYS_ljBaEIgJIpQVagm4hMRLkGMcR6Smih7CRRDyHxQYOOeZe9SGf8E_85DeYbW7tRgdENHJNUVC41SgkwOxX3WkBMwNbV",
    "94W_Q52sPcgm68vxMjD7LGptWBUiShSwXFi4fVbYCseIJdtZsgzKuiGjYUOoJsnljBlX4SECYEpOk5prqb4GCVg6FCcGy06D",
    "xFO9KFWPJ00tRBQtZJ4BNz5kOpUIeD7BuoIVpGpSK3WCY6mnSF0zRgCTKjtsgPUYSwRlCSpm-IOlpTWEwjC_qS4E_Gd5HJak",
    "vloNJ8haQ2V1hkBC2ieJrcdl66DrmDIAEw9oGnL4mKDG_eRl-I8BPqbGNsoMhLKULWZ0YQVUaLqA8gIOdDlZC8rMCUmBN8iI",
    "2jcXVsdgK1B6R4wZROmJAfTMgDIKGaM9y6BCQi0nsUrpzLcpY2EdcjOAkB2C4uFe5Nc5SBM5ocqydbp6scdI4tscwo-5U2cJ",
    "FZrrRClIFyQh9H6up_czKOxwC7wGQYz8JNMiJDhjFsUtNn1Ju9bzeHD-PCnUVEf6woJRqgVBgkDCQ3ai2oD5lRsbVCk3J2xy",
    "arUZr4PbLLwhcDmOBSGZgPmxxrKoIO61wpRSK9kMUANlKBOILMjEhI6aKpUzlCBcuEXsqRAmUWgnRepjzY572U6gsAaYUTPL",
    "yVE2pTSD8UJNYAufI1SibilomT3LPZ0OJ5CPYrNkNyjHbwCsyPoJEhb1PoC-BJksQcnS0rN5WF2AbEaHMMMRpGJRkFPxSZ6S",
    "0mly0oLxUgiYReTpBrY39SApUAqhSeBMMDNSDdpzLiyB3XVC-s_6A47JnBneUok3FdojJ9EhKskAdRgNV85aN0ORpWQGsidG",
    "wgSKY9FU1EagzEUIqeQkHE09bxkvZH3E89okRJWMYhzLel9ukOV5iy1J-LG7cQDWVAKHmroRo4yWAWbXFGnGIp0mwVry12DE",
    "RiyQ9iDrLZU09C2rFp5Z-74E1LVkQY8Ev2Yc6y5ANmf3gYft-PXYMhg4iw4GNjYolkxoAGYiFIW8ZgVDOgAjWKosheIyUEHu",
    "7Ay12k6E3bNkPD_VMlmAt8zEKuEri1xEqfUTiihwmGhRUeJQatI8ZrhcZgXUMqq3TVAlM6wWCQ2qN1cNWVizo8NeE0X2xQ-W",
    "USjygNqtEKxmtEBwS5SFW7hO3ctLRB1iEIud6uuyJmYJfCUkESFaSRPxiiXjgnuRIBCliD85M6VCQ6PqUaQcJQ1OATNePX96",
    "6R8Hycpo-IMfr59cO7_24wGUHdROGs4RxiDLZIzaWFpSpWa9xlvLyRnIc-UBwCQ6jU2EMBsaadGSyyRwxUSzoo3hHL5OmThf",
    "6hvUqNlE_MOr1FFMpqXAxeCeCLs2LcQJuQ7rYDijpetnvIYr4zZAGY8M9QILGP5ORGH0ilpA20nHN1rjRKoJ39cBFUQKSCLq",
    "Ymr07DXTiTfov3jSlBwCGzxPSzkb_hWkd7EFly6K0EcWiCZjOw0neOK25OwgIPfSiZqC1rAONEmEzWtmwzREa1QXuDg1LogM",
    "i6oDGyFM6FdwpPVOCCVR4VIfFnYm3uDMQbSNmoFTCJsOqwqilCVWi65DC48m4lXiQvQYLJTOZ_RsPfYN-u4zosd4hPMs0fhv",
    "hiQRkopdtq882wERyafJOii2Bb0h1Vw0NnkK7VkQw-gV2HtiQDM0Y3q-lz3oNYhIVDOSMNFTg_dzBUbzsZUBOUApyeuelR9L",
    "WjCxnBlCGkFiFrzZ13VanEHAFRGK5A3FxAE20MfFdkA0P1mBPahwC40X0lcJqjqzoCSPMdy1FHP8-JcOtKACXxnqMS_9HZ5n",
    "pa5YOCBzS8lztq7WiyyRrovCtYwNQs5iyqz5SYNaDQOON2iLpcUDA8W9cEMkHxURqgr7wSpPIFBPDAyTHLGrqb9LnEtzvCV0",
    "CqmFZgIrSiUPqmpqrTPhXgblhxwKYAslXZLnOIm3iHL8UKgaDSNma0BLSeD41mvs0QrNmhW1qJKsPF-IPsfx4lhjMErxx6SF",
    "eynrpe_mMC3nudZ77defC3WHhMjJ0IzkU5hmCIaVKEt5HEDJdW0cJLNWsZQwQWQvUjfKBwgvefO5xedWn1kAh49Ru-fJKw5W",
    "UiMtRSYYIM2pfOEHr-Yyt8F_PDhcJ9KURfPFFrTsyIzIWor4Cftc5Lvyr_adQtcBgefznG4MbN1jYwBq6sYIJHUujqRkah1L",
    "GtswAwejbi9bk0BkrCeqDiW29PMKclI4IS3bTFpg6SqhciEADTXseuGIWoXGUFMZeSB1KqUNrYM3TGbb9GdfeLYMq-SxOEMj",
    "ovoxHaEeFASGzJlkCkGRSJAirYyeYMG1iTMbSlGQI4tdQv5heaHKtW4DfAAXJiIi0EVCR5SZ152FlfI_0hzggmQWFs5Eph2r",
    "dIOciraEsoTDK5Wri5wAjYbd9KBXwjqnLWwMUY7bRmIRWDB5Uo5gqLtV0g0FTfiediAHAKfocJG7SdQD64jseKzpgo43MiYt",
    "S-2MUxHowrqfVCyvxs7lOHYr1JjzjXPMQNLCS6qWVu_vKag4FBx1Squcp4U10qwJ87NsdxIrRYnoJl1ImWhqP3cBUXnDGCCf",
    "wSv0qu9HQ-Ast5ZLq1jHsQ9kpr6w3BRQal3XhlVQMWEoaZWTxWMTaDcZMYlgoPpYGMYef4gFgtAgc4fDcdQTilUqRhEMG3rO",
    "hldXnChSt5Dw-2nPsYnCSanMz-GoglU2fZqzCxHSPHvSF3GUak5VHJRMjMAoNpjgZtUnhI8THZmlSE-Une_1qqrnkSr7oJwg",
    "9KRaVSz9FDngmq7tgjtqODyzIA7DoS64K06J-hn1HI5CCGBPKpQJSu9HRHBUVnNkLSU7FMZlSdTEwffh_ocZKEPWUUnXFVFk",
    "iRLpumMksWhjVB-uA7oLSf-5IRtAzIHcEAPRdSEbRb2RUEgwvwejBWiLtFMXVSPfL37UD8HAcoSP1lEMsLD1NRtFD3Q8SoZx",
    "kgNAsohJ7aYlloTWfcYA_3TV5nkSfqR3m8sI8pgMvq2PAm4iXQ0EuRbeCIG5y-8X0LQw6JjMo30cSHqZovcz2OOsbLnOyvm6",
    "lE9UCi4oLSd7T_ER4SellrdEfvvUobMUGeZNzvIH0R5PIeHmuL3v6P3ywkJsQ44lVHZ45mWkSkvxX9oWKg9ZvtjPxYBDuM4G",
    "JaU_xUIq6SJ2kh8HuCIHDFUsvqRcMaObnDz_fHPh31iO2NV3ggqbkZ4GicgNaBKqPHpjMYZH-ERmRJ7D85R_9zNPyXBI6ETx",
    "R0INNStsMiMoVSIqCQ5PaKy0wJwMQ7tKsoKDk-Rcl419XiT0qtTBCpwqMyteEbkrs3DyrgCAFj7TD9hPwJAalXc501FXIzUi",
    "oyRxmECWwDqazDZcSSX7Rp1TI8IDOlOoDWQrbUDqx_fpb_fi-Zf_eai63nV-HNyKHVbXCw4HO4aUYsJhdMIveH07kCxFnXE8",
    "6Qo9Wt80N0tjU6-gXFO-B6362oSqTlgFO-k_UgBowPZfb7YoY6Gdmr9-9Zer-BPRUH_5sPux9_A_9h5c33vw34fXtw5v3D26",
    "85unO5f2v_35wfb1pw8vf_fFNfz4v09u_M_X2__76R_2H-zu_-nS_sMrRzs3n-5cP7yx-_TutaOd-3zx9k-Pvvj04MNLhzc-",
    "PHj_5sF_3d7f_fjo8rWn3_7s8Mrjgxv393c_33_8-_2HH33377cP3t19-t6Vp5uPDn_68dHNq4e3buDi0UffHn7256PHv9p_",
    "cOlwe-vw2r39P_3iYOfX3925enTv8tPPLh98fu3gZ7_Y__MvDz-5f_jhzsHuzw-_uXL0h4dHl94-eP83B2_fPdjZPNq5fbSz",
    "e3B19_CPvz-48dXBg7cOP94-vPYI9hxcvb6_exdXDjY_P9i-9fTab4--ef_w11v49ymO89E7XPzxzcPL92Bz5HljPbD3ZBs9",
    "g6V0I5DVGBQFvY0qgZYEDZN28oktVZntmNJCX5VPttmNUGvxuy0Q3jU1SOmWMlmPn-zym26GNodfCTIFzZADs_jRdTccxuIS",
    "aNNHABiQeifeIMa6JotKD62d8hm_r1Rj1gJIK_Pkq7qmmOWVri5r8vNci4VxhAJzugGXJYNPuTtIFpUI_Rn1pa2ebCtTPblJ",
    "fSFm4DkoZs5mIN2dfHOBnrCKXw24KWTck99N8CbOBf7BlZR5b-M4B4bFLSx3IFJvQkoYzzaQHwh9ePI7pqBYyImZUaB_fqpQ",
    "nPqxg7XygVgWxInaMsDzMObJTX6nxluoHd_70MSvQtyUXhavMnHE1P4UPn5iS9lygliZe1illi3067yA7SgYrHxxhG6vcCSV",
    "2_oizNcX-wEyuvxS0MI-QILsO1lGCDjHNxAvWkqqBXHSFzxpBAm9I2_BCSnZ2FMuICy297z1e5s7e1vv7m2-tbf55d7m473N",
    "_9zbfLi3dUWuXN_bvLe3-Whv84H8uyV3v5Zb9-UxvPjJ3tYHe5tX5Mflvc1fdbf4_F359xZvdVewzvbe1iV597KsFte5JGbE",
    "TW-JGbf71zcz9OUWLvHy-o6YdH9vC0_ekcceyUX83pTfX8jrWPaaPL8p_0WTvhRTr_e7v9NvcZ-b8izf9Ldgyady5UvZLpr0",
    "Sb_X13LrLlem5WIqf_xSTnFVdowe-1I2fZerbd7Y23pP3tqRBW_JY1vy2O3eCWIA7Xlb3r0um273u1yXW3d6T96P_pFnYuDe",
    "43VuJ4Hr_AxHxcNel1u_7bzNA35Aq7pzxU3jXvH1d-WAl_sjf8B3O0e9JQ9Hez7qN93pPRYtf9QHHX--L2bfFxc9-v6tCA--",
    "dV8seSwXo7e_FF9FPNztAx2PE7H6qPfqJXHCXTHvtlgbX3-3N-wdXueP2z2eI1ZjdN4Ta7flupyoO8WNDiqdn3e6c_HuHfn3",
    "Rn_ArX6vS2J_DOUnvZGf9X_Ghy_LkWMGbcrFv6Flszfvltgcf9_pDKbNV-UI3_T23Oqhda_fNJp6T4IrG3U2X_p_"]
  | 10 => [
    "TVldbxxHdn02Af-H2llApgN-SM6bOGRA0_bGG68tWF4EwT4ENd01PWV2d7Wrumc4BgLY1JcjO-vkMQsEwcbZrK3YK8qSrA9L",
    "8oP-APlkEvkzOedWddsQNDPs7qq6de-5555bnenWFM5bE8xBY_BdZ2a82dq2NDsvruy5ZultMWvV-3quQ-Zt02auzm1rXR3M",
    "3PhlO7N1MW5UVuoQtketyWa1K12xnOhsv_Cuq_Ox7u9WutaFqUzdnssw9ZZ65fwFznw5zjzTXmet8WHijc4z31WTdmaqYMq5",
    "CTNY-aGrW10WDgvXnGVPl3bqfG01xtk5zDIhtyHjAyZ_W89toWlq63UdxGhYX5uMv-rhrm4ag5V_tvNxlc1Mtj9xByMlO7If",
    "dCY03rVxLEZoj_XLpQ5qYcpS6dDV7Utr6qXf7q57E1zZ8TkHl8oSoTWlmdvQ21LC7fnf60DntYMtzm-obbWwde4WG7ZqMBFH",
    "nCvbrYk_V7RbpW05YedN45qulKknRQZ_--3RL2Ghyawuy6XCNlvYtz2CzXkX92sWoTQtJsA12CW-MlNbi19KOByOn9nmvSGC",
    "l7QvraafM1dhwza4uiv7WG7ATHPwznR1hMWysqOl9H0nNnOEqzE0TCwns5ku3zXz5Jd_pH3a1sYDHli2dS6vXcTXzhjGVVZm",
    "MTqbKQcMYNOVCw1-GOXqqcMq26MxQl8pm8suM_oKzpzZsDHXZWcKUyfn72EEBiK-oZsEg1DWLYO2vl-7RT3HxmKM4NWulZ9Y",
    "qHbYeNyRbUqYik24jaYuRmo1x_p0y9qE8NYpe1K0AnxcCsZfHTLAda1yU4WN4DIDYINZHc3atgkXR6qrTch0gysNPLtwPh-p",
    "3FQuo_kZsmfmzXR7tLnwRKof7axUpprEaMGyorMBzzUHW43Oc_zdzGzpgmtmQGfAPSK7qy1yAjmwnOrMlpIp3mSuqO2HJoft",
    "yUN2qlbbZWPctEJ8JEb53GV6ArT55WzZMBqYdAOurGy7-vLWOV01W_UkNFu6rl3038QA2Dn3-4Z4SHzaTUobEMERrOqqhtew",
    "guDT5JnzvpNr8DecBLPp09JmSMilZQLpHD7MLTwrbgYO9nB7f5v4CzZnxucGMG3pe5dlXRPD6lyt9BRutzVoRO4CLzUMw7oY",
    "h8Wm1uSR_3j3NwNLFcYVcPrMZiM1MyTC7RE8vq-8KZEBAEypM7O6iXVT9LMBaw1cHmacxZS2sjUz3ps-HjrXTfSVaxoXuUmI",
    "RDAZuqaJGMpNy2xAFGYX-sw7j1BX2hcWHAjOrJlbgZMRBiED00w8V_vVwJMrK6912H6hMN8cSMZOAxyFfZMvkBEWKUOvgeyj",
    "pXuuSjmo2xZZyFnGodG15FsribjAx9twnC91nYeJWboYc28KmMJ4vO86X4OjQzv1Me_AmNhkzAUMK7ZHph6p8WZol1Jx9ES4",
    "02wp-sDBxrowB62HM0BrxGTAH7riCASx2FGRCT2QbaqmdEuxdLPVE5kPTFjSbLDFJuliZ0WRHCUXsLcJMxOmwIJmZ7yZ2_kO",
    "MGkK8d9I9RZegiFdgRIgDIIaAQsBcFScvMP2QHVwFRasurIFhHLUoxJ81SpstjlQ2JLN1S81wamm3lWY5X1UEtU6W6vX64KJ",
    "AfJD-JiN5gDowYPOI7VzQ_IJKTLgdrhC-31uj3YHw3o8e6XHBthCStj2aNWSlYUPUNwq4ogVbGYnKCL5thL6ubiJPceS5pH1",
    "ngvjDz8w9fSn_D3YiilwMXQZ2XbalSlGmLmyJQBU264CAaupJgxo37kPOtdu1Q5FEUW23UJdqLAMUAf_dYgh8Yes6TxSLtcV",
    "lhOq7Go3TeiUbzyzfLcnKRR4kGQEKvi51PC5Z_5GYZIwjp0jMbJOam1AkErJ8xLoRJBwUWLJtFg9P-r9x7oFzwJs2BDtw3NT",
    "UKdaQiIEQZ9Q_6XIZhh8YRjbhGU2k8pJFiCzZKbuyNTcEZDNC_gp5cuAzer3HTObAOS8GQs7YgSh4LpQLgFIO2XodhwH6gLo",
    "nwCvXrxrkaDAKSosJqcDg1nTivWmwRpvDUrht3Vp9w3XGG_qnXPC1CtTkB9dpWyrFtAwuLvHrKgFCl3rKjexpblExUPCanVR",
    "CMPNjVCp5Mxl0Boyr1yujdRmyh6kWxk10ovDItQ9E9acJUdh67CP-EKikYfalqoPz4kWkJlbVDw4Hr75q_Evfrf32u57u79j",
    "lnnhTuRMLO4ln0V4YVCf3ePNQZe8ZCGmzm8pq8a5nSboABvYElzusGrSsQGhhc7ABJK-mtFvhbkYadpn4Xbs3q0DUCVG_9NK",
    "z1iGWkPyA-wz04H5qyU9yAd4KjpjJ-UMvVuCtiDy2tlvjK4XqNVmrc8FExij8cTDn5hMTZDdldHUdS0K3vS9QUWGLqVFO9Fh",
    "3-CzLCeozYqVMFBe2boDOkHYJPoMttiqAB-hgumcgSbWmKuV6Cso84woFHFSU_IAiTKS5CpZC1f4JbIx2ZJDa-biydHOOJHx",
    "UOPDryPzS8WmpfBsrzzgX3qoEYoWL25kIYxe-AmT0BFz8enO0ICgQkY3Qx91Za5mem4m0JygRpDyawOHsQ5K4URWAEBEW85q",
    "x4JEn6hf67rDc8xzqDD2Lknzr7yQY9euouZK8pTcaTyBFatQUh6VXiooHYlOLVSNDKQGFjXyZqvgVVRkB20Nr4LCULf2pfrO",
    "zFvdAbQbnFNQq4nR8K9REVgGAQMNwgOjKIZHL28x42OWGmYW_GwpeER-bY9Wxr9YX0cJyVW8Sy3QM2e5DF1RwMXsOlyTqm43",
    "8MGu8Bskfv3Oz6pLz7GA-AwyBTU06UR4UpoFjPhQJE3Mo93SHKD-g8i9aa0X5-8OCEP98JE7V1bYx9Ba4AvpTd8DQy5q9Nlf",
    "9ywaKx0R5gCm2KFBUaRuRx4SHl_t8bIKPAtDGWiQ5GYFZFPNoNUaI0GMSOhYglABlguQuzzpYmdDJCJtbCElBdKftYXVLy3B",
    "asXEiuoG1SVmfJ0nnwaSh6wL7pRGlVpvKiwPptHwtyhFMitmB7sL_rBOQCdHNY6wQVQCvR0pvV24NPMb0HLEq3rlAyqNdonr",
    "YQHXUD9spO4J7kerBCKm3lhARxD5kyWVjJ9b9H0j8E3ezrZHF8g7udcLXU5Lp9uLKK_QjUiTjtHPMJPNWRrZLTaamVMtyQqs",
    "SK8N6noCS6NSbYYekVqAJYJanpWE3EQ0sP5BmScGblXgfJJlZLhSPMSOFOUNSoOZ51lDgLUpujip9hhYAfa6ZJ8n1T6_NPTi",
    "pe2Rczl2DgB_ugDZQZYXwRQq5xk_EOKCFNnwiOEtO0k9IjrQ_RijXC-T72keuVpTPEj3a_LdIWtXxpIeK-PqLchIz-59-TYU",
    "t9T7V6KGI1u8OegcdppGIhh9j81Pe13O1UBkgZ4kt4FcEMPcgEekVlwe9D07Gy8putmVfdVF--6n9mC0QwwKC2dg9GXMPNQY",
    "lDeqdTYEigp1LSzR3C4jEuWoAF0lw9dVyIVl1HCo7ktA2O-i2hJrVFgZJVcvLBVCSNlH5aaQM44qnJicUtaMJobuCykDalG-",
    "YOB3stbBR33Xc1EFbQkCRaAg4wk19Qb7ComM8m4RFTxiDYSrqVmgJtbU7bqN-KH_1tdBVaj0czUGPZQ5-vCdXdT1CQqSG86n",
    "ahc5gqmJbto7zbKH6M5Rh8EgwynECp1RotKhywIiJpL7r2vmgjJFkTqvUAVSGTsJqKXhTGZvUEGRtOGMnWHmFzdFoWw0MySP",
    "Z-cFRKy_H0K-_9LLL2_FM7JceoNejWaa-cmePV3hGjNPQIDhLgNpEXZsg9Cq8TSAJyI5GbiS8zti6tJwFoR6Eg-9wqXhrGDK",
    "w79czhSA68iOBdwS0dm6hfaiVIuOZ2WQbnl_DMKML52_-Mvz58-jIzJOFWCEbOggwYTiDehx-KwwCe0ONYrKHDtYB8rs1NX7",
    "ZikcsqXSUcbFvzW9PhWu41FA0S4b8iXAsKZ0bDlV8NnrsWPulRZ6fUvZLHdnIhoQxNqAWz2rMTQImw2en4gilY7ULUSBwqQZ",
    "UCcIg4YD-iAPXhDf81Sk11cAKlgZPxkZLRoIcs1jQbAoJULeGaLTtgHuLq1ElYoMaYgYQ0tB0Up-YMi0Y8GkmK0adobvsdTg",
    "AbOWoXGM-vldE3MbulFLzQETvj6ogn2EMvZ5Q16GZuhTZA2O8OxckdKwPke9jjBlL2TRt1IZ1aGxkOTL3EAElazE9DIyl3Gj",
    "zbkoN3ZPlOMpAzh5NvQQEAcVz5GgNlNHTzXCow7WX_aw0vnoXv3PDb5RWFmWA-uMqPDYKfGox8Tgwj7xZEYLpDeVGImKhO40",
    "LbKni3kmZTEW5qH9XA10EPgv7P2sD1W7dEqmBWFCVYgqu1rZuYK8Yc6xFjrRSEP6_s14E-oMJR3cyd5ZRAhrYzxZpMohvpQe",
    "ARB-e1S2_i1r4AvowjZyVTpNWSqRtSnMiqdvUBvSydWxX8EuheXll_ZFJ8UMiyMFRMFnyGSIjvolxJzkGjtNX8X-lyIox4QA",
    "LnDAExrRkHIK4aY8dyRcfOBJRuxTNlZW3pSQq1cFhjH68AqJIMQa1JKQM48xooJ-qr_wbgcMLDeAXSh-QJDM_yvpM6KgX18k",
    "TEY9cBlsEGtj0kOWUiSh8-KCwgEQQ42FEoiMqd42C_UPyGWle1kSiOxMGDgf6ir0ron2JU0I6pjpPBZY3Z-Az1kVoFNs7PjA",
    "hIT2nhzXEkMi1mpWXeqGJcuxiacDBXJfNHqdNIOc8rgp8yieFIlkidVqUAqiO1v2iFPkWMdj7emaAnfNlPR9heiUdsYWJypa",
    "RBpGkF-nRhp7xhdWKSnvm8MpRGH683Z5QRN7MNRVUTqm76JRERxqpFiFFeIxjYJnoYG3Ici4YgyX61qRvkCiKVwrnE19kEHv",
    "AzAxV5nxQHLspMlNsZ-JnNN59vMxG1wEq3AsTzoiW0gXLLtEzYoBXOvf1AhTd5EPqGHUpLNlyzX2eeaUa4QtEn9F74nMey3y",
    "LiYU3XtRXTh_nqkf3yX8HTsPOA4dIles2bVMefQkbIFxaekosllI-Nwb1FyzxjhwActOigIqO5yRJEx_iqPL1EflXSXngNKM",
    "atUz2_pOn_3qndSsgQB8mVOabvCFxDqgYuR8AyUHRUsYWLrAfKTk_QboBJpV6AV6vDZxGvaSEYlUzIQ7YS2HdOBdzlc5sFyd",
    "iqASRkPVo_ULOdXlM30HPpczo6gxA9mWZL0fo_wGuIV5EpWbrRvmADDgGlPLzFP2M0g3rKxzIAprTJYo675_UxOBqmtQ8szl",
    "rDPyLkYOAAd1o_iSUWFfhYnnUrRqsoQ8lYbLi6BgHoD1QmdbYT1uiXcn3nVUP8M5K1sM4iWyaJbO4aY8ZQlxloRJIATxkbqy",
    "TbSjivBEU9rbHEjB5kzEkJwBeG75vLpgKv7fenU4k9kcDjhYSdgsSQOZ3kgga9Np7QZMiLqwHc4KwJwtqMUXs0GjvzhOInJ1",
    "CpixgiI9oe3SiKRVXlxR6BJ0PG2aQD1S4VhWRB97dsi9ECVUCi5PxeXIjTHa67l9TQ0vF1uUJlq3PcptlDpd2MXsS7Ykctqh",
    "2M4BLH1V60_IVsbp0Ay5xbhTptb5BgSb2lajzc25dWV6R0pHNwhVK9ypaYJlD5bFdyeZHPoWIZdIcb_18PahiSf0z2-FH__r",
    "x3_78csf__3HW2cfn_759M7p3f_7DP0epDZhwUhTRlgnTJPZ53eh0dGpQUD79OYCLaOT2iN3u4lNz0Xthf6YEG46dushdgkY",
    "EAZmxSyQs3Neg7-ff5N1UNjof6X9JfaLzsov5OXzxyLn5HRL1kCRsbHfZk-iZbVYB5HKjvU82eImZfrFl0p8i2UiSizXpQTm",
    "gBDfx5Ohe_3Cd43yzv_5N7p_YyxvzaENWI-gxnjSILuMZ0FWg3BK7AdXJ3jEsvUG0dAAJ-8uSyOvQR1q9_NveJgRxA8WXBz6",
    "LsGFWgs1mg81z1h9Wrdfg-Y_v1uxfvMNeXyv4HKYCa3zYTyLtPLaPeOLJK_T22b6YDg-11O-rhC_IEPlQe6RdYw_2YmW0rIc",
    "Pzl-dvzd8VN83jm5cnzv-P7JYbrGX9-efHR8__jJyef4fXT8WK7ewG8-_enxHXx_j_v3j5-d3MDn05PPTv5F7t7F_8fyfQ_j",
    "fsD9j-XJb_F9n3fxfXT8CM_e50hZ5YGse_fkysnhcPcIKz7Enaf4fIJnvju-ByvFUj53_J8Y8RBPP8YztP3jk8-Ov8Wz98Sm",
    "j7He57jzEJZdibvkNYy5f_zo-PuT38tzj8S-j8QHT-ST1kdP4G4a8fDk2vEPeOoIfx0lbzzD2CeyKvccLeSoZDNs4TxP5bnv",
    "Ye-Nk0_wxA9pv_ew8yMZ-7D_Bf9xBfgVVznu25NPf7YurX8mXo82H4rFXPWprHxDfPG9_C1jce0Kr2D3fUS-x_-nmO0B_t8b",
    "9nE_Ra2PFmP8kN6N86XnHv5s5kf9rmF1untyDddo6QOs90d8Pz1-jLtX6V1ceXL8h2GNxxLRu8neZ_QprRL_PBL7Holfku-B",
    "wBRL-JRxEx8M_nsm68KjePIP-PVMfPLf_br4_JS2pEgdYcWH3GVEDiz8FNc_x2wxlp-fXD-5Lmg-xMhDmeMeV8LIJ4zHMN_R",
    "8X8M3hBbZCc9Io6w84ew9jOJ0RHnSlH-SHbbPxdx9lh-Rx8Qa08iaiUOMcIP46-T3ydsPBEc3RXsAmfRPl5POfgEdjO2T7mb",
    "AfdPxO6I3X-FTdcw67dn186un946vX32z6d_YqU4_fPZ1eH7K_l8hM9rZ1fw1JdnN1BPvsR9XDn9mnfPbp59gt987v7ZJ7jz",
    "Nea6eXp7GPsdrv7p9Dv89XG8dnZ4ejeNeCSz3Tr9BvPfxJ1r-M-KdYu_8HkIq27hqdu8KyPu4a87p1-c_gXjWNlunT7A-jfx",
    "65HYcgUzYx-cBes8wAg-d0vWvXr6GBbc4iiM-FKuXcfduNd7uPaXwRs3k3130nOHp_fxD3sQO66l1W7I3N_I8_8b1zi70e9N",
    "dpP8dvoVnsbvs-v4m3cfcCb8vyl7o4duy35oH75pS_QpZue1u6df9z7Afg_pFVh6W9a6JnNcl-fuiyevwUN3uCPxw9XTI7kv",
    "u8HMX-HzE_H8V6dfDFHgc3fx_B2Mvoe_rjACEvuriALvfoGVr6bnuNrX0RMp0rA0rSbWcDyti77nbsR_fYy_IDJw7Y_in2iL",
    "PCexFPyd_k_a72GMIi2Al77EDIe4-4AeJhJhzVWJ2wNcjwiLPo9I_pqzYEeIe_Q9nrpNL8GCB0TM_wM"]
  | 11 => [
    "XVrtjtzGcv2tBfwOzATXVwJWM5ZvEtzszm4gS7q2Ass2rjZwkj9BD9lDtrbZTXeTMzs3foU8Sn4EeQTnwXJOVZNUAthaLpfs",
    "j6pTp05VM39zeTDtD6a3z7efhnZTGT_ebV4NT1WO3jXVX29bdyx3x2RCHkyyYXThGFNvRheDGQbvarncVDHU-OXxbmPzaA7e",
    "5c42pjnZNLrsQrsdwjyFDSeXYugx2GCTjBZqi8FSHJIzo_3S9MNt35jc3bq-tw3v-ct-l0e81t7vd8mMnU3V2Jkw2h6DmHFK",
    "trEn6-PAceuIu6PjygZvattF39h0wkoOzrvxclPH4ZJc242b-682VWd5iZWdbMCocWq7ZOVFDtZgRy7INt_ENMQkl_vJV7U3",
    "Od9tXuccayd3XWjcyTWT8RnLwv_16E422_HB9TZO4_Mp-efdOA43u13PXdCSde5Nal14OcbhhmsY8b6_VJi4Tm7guC-qEF9i",
    "TdZgb95z2Bjy9h9_-vbXsZv6w69wDgZyA0y166xp7veH2FyOPprxxtvjeLv3bl5vN4UG5spVPF5dfRfPmDJdV7RZzGKz2luT",
    "bg5x7G7rGMW-uHt2Y-doH1t5c7C-guvuNoeYYFpZ-g_2XP2rNd5weAwH4zW2Gbo4xjaZobs4uCuJNdsv_Xibp-HLdsQUAY7F",
    "GvLlB0vHcoAMqNhEq59goydvQzt2d5uMRfxFn3i7utvmTGTSaFdXr716sNrvRvs0ArTmfuSWbTq4hJUNWAJfagRnQXBGT01e",
    "tsmFTwF2sNnb1mW9a2lzwA_Ounq2h5Mr19xtnPcTUAmjN1igC9Ym7A0LT26MCSOYCYtJMljj8KQ7THj271bIZQTWy4zXjre1",
    "GRA4Fl6p8CziAU4A-GkzIzDyMT5ieNrdjdU5Tr6pDvb1sUUcYHATziZXNfaLKT4AXFu4P6bneUopYv94tTYBMZgjXosHzHqS",
    "vfWGkwRGocX2J_FSs---ngHTx2QruJRGHqsOsxzwpAsnk_E6Fvxi2yrEn784YiZDpxj_1ubBjZaI2dyvNgOTOEWUfTJ9iSw4",
    "BRAudxF6enfvwjCN8tp-ZxD5IKFwT6gQ_pgYg41p4nT5YI9cJuFZ3VW_L0H2do2hZL3ACZG1zdOB3gjtc2vqjibHe5gYjpDB",
    "wHJ-UkzRNm0qhgqXarBx8LaZMFWU2QCYQ9lFExGntNDJfnBNA2e-M3nch6iLuN-vvINxUmeGzCG4CzdOSiDVWxi6P8DpCazb",
    "CgX1MY_V0fRxEloB9ZLFxNXqAO96N8ov2T7VAKXsMzOqALQwXl4yyjDS5v5qPzazYyUqWkEHrQ9i8dhVE2vahkiMdT0NzgJn",
    "F4ACzoo-tpc_AywuZ6HtKkxcLJ5FOIMcR8KTLiw8SSZogys-brA3sGXau76tcqrvNrt992pezjAd5oTSm8uMVMYm_fAXYHJ3",
    "dNY34NN7ZIsWgcyN9gjDggdEAdiAmQGbxUKUwY3sUJwFeFUGPgLNbDWh_RAba9rkEP_MIq9X3iFPmFTj0TzGs0mNOOsDfaGA",
    "ETzIWNXzeZlIVLDv2TWkq1v5efPqq69-h8wA-sY_Ydx3f5h3zLTZ0ct3mxdb0zRvePv5EvMx_ChukKU3Bqw2iqlNrWYErRwA",
    "EiyRm__iagkyJenUgmxhcm9mX7SF5PL7NY1LcvcFv_WkBgNXV8LswAMxIznlar8S1ytTp5izGhULCQq_F7cIUgW76xEnQs8N",
    "eedgqwzWoLVsRaYyje1jUPokOsFCNm3ucRlKfuPY35A9c8cXzriEW_8KAwNnyP23w9NtVXLnEWkRqYxINZrkGZ9MagIp2zQT",
    "413WC1XhSkgLxmoiH4T3N7NbyNUu1GozEQIct2U4iW7JPtZz6MFQP-APDIJzZ4swsfvdAHPt4I97U_8yuZJYZSJZA-MYOUes",
    "bjNiVMb79yMM8TID6zdzAqgcmZZZs8U2lKNA07YRUvDuEYEOmJHWpoxtulxPWfhRE10tAHo-u3aLnGiD8sP7z8h8rJoIFCE0",
    "JB8DAbCfCx2MSVNnGJ1JWnZfQ0-ZlDs34Nk89YMyF6lYbAZoVeR2-J_xht-YQeisARhnhiRtIi0RNRWzn-AXu8UWRPukCO5U",
    "sYFdnByITwRRciejigoqq-xtNUmGNooJy8MyhQkaYYKaIvQoKNAsQq9cYV7mdIto6QDpiruKHiYbSKLYPLBzJM6Qk00Th-Lu",
    "EdLQVhe4Jiv5I11KtPzJHtIEs-Uok8rSJVVU5y5WNB5WTBjtSbV9FZAlzfEoS8BdbhYMK3YAj4ICaOr3H398-cc__u3fv3y1",
    "YQRAbAWYpQM8EXNAE7JyC2LCCCZjOKR68ZDDowZgAL2A7ZrCUTcVkrM46DkBJyaBVoYZDmllgp5B1uw-5d2nXyabLlsM9hji",
    "GSNxx3DkKDPDMOS0J2T0kWYQMbKmuiskQcYbwfVF4Q_8rL78ZYrj7YPmzcEp7-C3zjTyLAzVTBpvQ-d8zHHA2utY0KWCiLoS",
    "HkJCxAyyOQ4m0TJCbVYZ2YNOeLeKMgNRBWsTcsnipz473wN2oGidPcprq2TNRBnAA_e034nVL4ymP1tNVbgOktFMcv6CpR8K",
    "94DRukAz-QvQcyrEI_WAodBMx8LvxK9IS4j38UIrFbqnTjZTYuhR24MaGW-odhCx8AgyJMNfRVnuGDrU59y5TmbGoxOy4W1l",
    "GNkxnMXXjzAiRNnOYSG9vQe2lEDzTQ9FUF4D1kVJYzki5xMTXCXgJLYmiH4yMdXy5eSg_uelg_AUiKyGikaUhG3AvKHtVE0i",
    "jpnK3zPbnYzfzPoOqwKnYrh_iemRhKFELYCRlB_D1dVnerIuVZldc8_ejDB0947F1MHW2KKQ7gaoxe6Qvv6thrxyuouPsZ-T",
    "bK6FSBg0fH508pc3a3YSrWxIye2bLhERhOeHaRGRTFL4I028JsuvyejlgaJe-Vvvnig5eHmw49lK9WnfKXNyBMjMuqSppaQ9",
    "UcRAvyJOmahgSKASzy4562R3bx_eVv_83cOH7ysVvURElLAJNXld2EjZ89w5rF2KiWbV62IHIc1qLoKw0K1Dak4yLhNZq1Li",
    "9SqeyFFMQuAoqeeprUeBCxRaixGFN6FM4PHrtfRprIpLrPOn_9MRwNO8yteVLtMRpiwwZGJzODA3kOfJ4KUjgEdS7DXPL9V4",
    "qW7pb9WpWYIB6d71KhcBGKnOJH3NOfiVVQVDX3y3km5Hfk3CO0r0AhQTAkUjuKAoBSExcYBMVsFGrpdeBlYWohZfWQMSvvOe",
    "MikG_PkAoQxh4VQFxW8_PHyUauX1qrYpoItaebe0DK6lAhRB2VC6J9UPgTBE7sAIipJ2oqTqgLdOtJhjBQ6sleLVsjYy_oPI",
    "WwEtomYquhprfA0qYO4AKyNFiBymAqHgAH-dKfAehXwQjQQ1U9D7VU8yYddqE7Y4AEuyHClMZJVtlrr7ZAGa0n5gSqsftVgR",
    "7tPsqogy4LOk0tKJiGFGISbyeCQdwUCeKcFCREiNJhtSeZA70Y1C_LBXZEkaRqY61Dr09-Gy-Jh5yDWSUPBaGl96ktjCW-a-",
    "KF0GASBwgT4bx6KCVMUzzxlPQ2k7BFNSIGvTgbs_Wok1Qm4VnNf73ZJZrdbnUlYvDPOH92t9McRhlvlSA7zM2ITdVktnpIQo",
    "R2Bzq6g2BMXcH0PqScIaWOI5zgIOfiv0m8E_8CarXitTaOh1JUPC3_udKibkfLInyJMdAcs6NQghnQEQKZYPUHjMhcJGWBSi",
    "NxBRmVRUCvNAYSMeoqaXDkdlepSg_G8Y3EBy0wYQ-JytEKpMcOpYVnamIhNknDHuJBHpYFnIT-qwu81DMnOeyVPLuonbfFhL",
    "I_qOzER9xnqctI-c3SwosepNly3Nrd0kxKFZqkVkRAKLjh381LIPYlq7ExG1HbrhH_AAswxXJkqM09nmu1ItoVDRn4IdyluG",
    "cs0GRXU0J8kBHxwbQaJR-iLWcclxCiBggpKdmz1efGR-wOZJaE5rub2poHCPKMwVRol1NwqQ6E_K60nRTfmFsM7MZ8b3KOYq",
    "jRMUeaRUVu5anIjffoKByDwOLAmDNxqx0k1S3SchzTCAqWMlEg2DgJDxuqyOoScF08my6YuET80FWlGK8Nd4gEQolGkeEUBS",
    "uAGpswhZ-nLGL01N43GFdCMEQfsKnAVGSC7mUTEpBRs8qRqJgWGqp96HfBPbO-gWM1Nx-cHG4xsuR1M9mxmFFDDVhPKdES4W",
    "wH325dhwPbonVNpCqKoPuJxSo4g5a-oUQzmDkQiqzBtKg9pVk4yTJ-kOHCePVYqCIdNLD0_tK7I5S-Jiwjkiy8Mka6viVtSr",
    "dHqutVBHLMsaHq0d1MdkNa2EKUgODuSbFcnd2PvNm1LEw18wyKw9peHKFeVbU0vlxJACgttwJ12x0k4DmV6wIHPR2hQMOaWi",
    "XhWInPmbYoeRRTcQwiIwNpsSz79sMFA4On3NAFAZ6RebhdCc8PdNtbvHS_QEWePdeiaBImVXqpXiQsDh-n4VnF9t5vbOK04r",
    "ot9f2PMrPtKGNhSPFrp8AsaCvkcoSZdqiCBZGj3kxP6jkjm9bRLixeSbgIxxW5H-91KAVqjSPJbuGjY2KPao-xhbkZUAkYUK",
    "7awJkEwnyZ1dYtaFlAyct6hBgAsmqQUMkFIW4QBES_nwfu7vj-xkVKifeJLTIJJr1uCb-xKMZG7dm_TS3VFzK5vtIAWYnUY1",
    "AP6oDasvrp5p2f3FFe1bMtkRIVUIujef2NXm3jQuRPBpVSdCAOhbtLe2IsRmZ61-mSTSZo5CqWn0YIJapnQiSxxn1t1Y3yVr",
    "HYQMmrBilPNv1w5RveasLPJBstNSPr_4rE8D7ZweWWhL12eufvcHS4YXq34yJ6P3b6SORQLCyGdTxCxyMBjZu0NyU4_1T72m",
    "OiyvdTyROlxQwzaFU-s4J17pP5zAgnAMWZllIlu2QfSlhqn20UhiwPpMryzitePCZhFBxpOK9RDLNu1SD6FYJooFtNrDwtjF",
    "6y8bc5mK5oW7sTxJkHiNtM1-EMKoXo_MtCbTOM5lMR4C2WSukU0jbQ6IA1RHMa8IBTEGxqhVAP2XOUXjGgIxhg-MgB-ZiRCQ",
    "ImOguYTihRFrarpW6gIFLWR4usyVpWbIOZNp5pX-gCmcUlpTZQ3dfGDmqBzZ9mDo96wAVQoR6gUGhTm1jcUFfRa8sjIrDSBp",
    "xkl_R-rtse6cb2B4PPvTWjUzSpdoCZNOkREAlWkNrY38K6bhehGFvTaqMyQXFkb06AmrZXsXCGiLEhvkSK4ljGQqI6pi7apt",
    "JfQeJd7ej4sYmWuxigW41qYR6U6D7J-2H7elcyp40H1JI2HWRmBnoKbgjO-UPF7UIBGFwboYRNmAuaxR2YrlaldGTho1Ccaj",
    "nIzNQqv0Vsb4CiZ4B1LFX0qJSnEKIwSelbJZv8O6vb2_qpTBFHesNMrxThmeNR9MElWIRuKhGLaIQmGjpvkTlRiU68z2HeQp",
    "47L0MktDUE9SZ90rfWryzVSOvnGFDDkIyzVFVilFse4u1YoybZRu80xM9KafO0BYup-KHeYyAbmLRmX9GuNjrwdmPBQs3R_x",
    "kJ4glt6rdpBd-DIc8nALczX3oSgnSE2pshtrCDkWntyRTVIByunLctJ0GFHlXXIxVKlx6E1WX2W98_GwdLxVvZGgkfs_Q0lp",
    "kX0PFix3SzalN9nNdlTY5_BubZ2oJQ1BkNdWjx78ES7XB8tmpeCMRi0Ki5flqGjpxet5lqQcFw5Y4aNSFhUeMOWnRhaJlOCb",
    "32eCic1jOEAErVC40cQkvlgLPGAihGIH1SpaooHxvPaufjYAE7g4hmtJY9PhE6iDXcMCrvs5wz57htmoG8Vm5RAEork0wuh1",
    "VjtRT5WT_TSzEXEJ4YtdXwiRo3xmca2kKx1eHl_OvojSXmHFCp6cXVBkHf08pzokKmbI0lKEoJEWvHf3GlSokIGGWlWfQyXs",
    "2Xn6mQKLnX-aBm99v3YEljYuM06rBy48p8gzgzMmit-ow2fIaaoVz6vWEeyWfhXBqm0T3i6HEAIuQaEIK_nHSIjcr2WSqH-9",
    "5IkgxOLJ5mszl9oELUpPpZVxLTLlgKOwBlOz-hwVIBDxhvS_tGzhFrvUkB9Xxa-Nco52TT4sDwR7zl7q3iwbU_KgOCx8xqPD",
    "Qd0t0l2xQ53WI5tQT6KA5ni0mbZOasiD5TMRZn9NSUz7I_EtEStB9iT9rWXzTkRO0SUMp6JWvhXYS7zRCfLpip9FPlggrjbd",
    "8QEq6thfSoXKvCa5TU-99DsIaSlyinKszjq87FgaYVmKIDnvnqVlUF_krUSspRRVbXSZ5dd8FiGCRMWphmRNx_I0s5hPHuDJ",
    "gvEHSLlGc1Ff-mdAOYVx8VDZBaVP__-PkheW-1mX87B2tOTYTo89Pq61fx09W093X1e_Sj-qkgbMLIHkMGSYGxR10hiVbMq-",
    "fSmNtI-NYqRB1sqaLzAlXM9TnljKF4a09AkUyjwM6NhmyfzsYtYaIVbzwZwt1tUDDm2iIosIW26rBzlR2AEurc27IutYtJeC",
    "iQWstkPEWmCX8pHXtQhZLWnkWW1SCIyCNK2X9QJIbmH7RnKOwJ4fRs2hVx3tWQ_z-rWFXxictf8bZDnsLzhzzc9l5JwNcmuh",
    "7S1gxHjKn3dcXHj22SdC46YqNSfkSjsZ0dZKI1IwLQde7N0sR4fyEUxp0YHUy5lliUIxieYVXj5bo4Xx1vLQyDZFa1CcFnVB",
    "TjsLT7InmxktpTvNHRdGokaMyhylY3kgFpdkuX0j_RUpj8oU1NUN1BjSiFRUbN9ox4WzgarZ8DEQalPSjC6teSf9OjMFKQmE",
    "Vk6Fd8qHNYxJLWlV1FHsqeZaTkvORKqc4fPgRKtVKrw1uq_FoloJy_dLXg8JF67eAue8T0wsnznWl7lU5KlnrD5F9UU57tXz",
    "oaVpJnHhSzjJwbN-hEhCYJ8lQgONbNA-_Xicz9TwCl6aWV76yxZCUu7Oh8X4OZY0Htolbz6sh-eySO2TyhdNRlTxKt2vixwn",
    "nQjetGLJHlAN__MfYG32K_i9h4Oy1VLONUbNV7MUzCISeM_mZVweudTSIPrtP43it3a__XcYJp5DyKWRzy7kstjB_vZfhmqh",
    "jQlvIbpbtioReYyAo82SFvkxiOkZxhApGF2_DsnUpFikzFakO08baB2ZYvkixOb5Eotkxcp-NhZfpCWfwFC10ynk7Fb3lqWe",
    "OkBjsxzFyzIu6G2AqgafQFsgiPUujDkB75ytfC7A0jCJ3pYHEOUNtNAnyOF5mw0PsvWsVOxbDlNtPupR8xF7MxObk7Icdo6h",
    "hrjjEaHOaBJLss4SB0h1qx7SD26xKcyxfnOjnS25DKCAdvEF6xVO8r8"]
  | 12 => [
    "bVnbchzXdX0Wq_wP7amURJZBQspTAgKoomnZouPIKpMuPzhJ1ZnuMzMt9XS3-oLhSHEVCIoXiXSUlC1acZjIsiAKongBQIIc",
    "8PqgHwDewDc-UFT0F1lr73N6WlWpIgc9p89lX9Zee-8zSZzagwMb9wfVXC9Lq4M9M4yT8VwnmAs6g6rK52ZnTZ4ncWiqOEvL",
    "JE7f6gSDwvYWOmVuw7iHN0kynp2d_-Fvj_7kyIkjv933y6Jv0vgdWRDFZVXE3ZrPL-cnDwfurMImuuEgziO7FIf24CiOqsF8",
    "FC8FYWLKcqEzn5iuTYJeVix0CtvnTrJmfjbNyrCI82px32ycRvbkoUE1TDojPGejQ1lu0_3BD-NhnhWVSavDLfllOt5HNg3t",
    "7OxoNDrUz7J-YrOWzKausjAb5omtbGHfruPCDm1alSHEtcUS5izZeUg1DFIztAudOK1sktiwqk0yNEU_Tg8mtlfNvfJ31SAI",
    "sbIuxiYNGoHitKziSkxSmm63gPqqVzzse91VnlLGw3gpTpxsr_x9a88iHMQVzy1snIZZgf1NZaO_fXk65yCErgycXHQWh1lZ",
    "BWlWmS78tTg_a_Af5l7EkLiR-79UwzY9zI9eOvDTuqgGthhmhZ2BI2K7ZINqgGkptnvtxD_-IlgI8iLOiqDK8MJGhRnireAB",
    "ALFFEad9vEttHyc4d1sTvV2bApYtj2c1BD3SK7CkTss6DG1Z9urkDZum5ThZggHMkTIwQWHLOqlm5unlIDFpf6HzYlIdni3r",
    "_MV-dTiyJuFJo7ga5IM4MZFN8NcMgJisUHkOHJ6f9ZjJTRRh_sEqy-fsydwWMd1rkr6tjlSKVksfFXUoMsPEgzRLsn5syxyi",
    "B1mP6gYLvTqVGfsPvFvWXd0eX5NDURV1Fn-wDwL3bdYvDKSBFEezqeNfmgma1VCDyLBR0B2bPgSGsnVhEuLNC5HX3SYGJU7L",
    "-B07F7xigiVTxLYaQyiJnbIaJ8Dkq2k4DhOEQhSbuAfH2KAswoVOZIeyK3FiQkF5DKdEdQpQF2VcQcefYI4TumzZbT7CZiEX",
    "wqdvpdkosVHf4lyitOwZlRP2oQKmSMaKLv18Ne3zoGD_r48fQDwiAo_CU9F-SJKWw7gsqdih4LVsBJQVM4HGVNxnnHYCQFbi",
    "fKHTSzID9iCHHD6aDaHMCN6vBtimTwz0imwYp8EIsg_oJFMFiTXAPVBY2LzIIrWnbdnn8NSgr7xZF3EJNYUHKoF7UAEfncV5",
    "42PzWBoQQZwyE9nG7T-Cv2hDjVmGXVgJJuMygB62kLjoBHwFvJHTciDbkhD6xDOCZ0A8u1HZJwtDQ9twrfCDsORCJzVLcV9m",
    "dBbpRZu6cwdmmDteHVK5hQ6WdoKlOFPChb8kNmlY-LGwgFoaAGb28HFgP6xmZ199HRanX9SlJX1RLFFOUbDhimMpSVB3jeJe",
    "T4AL_BxtyRCaHL5LBFfIEPB73PvngwcXf7dvGo9HB7A5CCKNqzF2DOxJQ_KdeaPIerZU7WESkY7blnW_j6_inJEpQQ90sY0Q",
    "SHA6BshawPCSPUqH7a9Ti_2yMaOccXtkaMkKLrhAnrBJK48EEmsMCqAQAZ96vwsGNPVhetVgCdyYKfqQNxIDtEQim-SLt2ta",
    "upwf2sq4fPGzOo6s40wIWYwGNgFo-6ZvSDvCLVhLBpc4ndl3KAVmMmqXdV0Kwt5k8H0aXvt6wf4oC2uqeKibFZEtQA75yeDd",
    "FrarAuHAGdD35Y7LxAudV4ZZ1PLpND9iYwhKK1TgA6y1BfVKDdIOolRyIvxgxFqQ_-dmyRwXn3aClGEMRRI4sIz7qRyAPX9c",
    "ZCYCpIn5xRfTbpmDYKposZWm9rXciLN7iVgQMptgyi4ks5dcfdKKhWBgkp7nZ3Ky5FuTBP4oGstESC2VEe5CfRLSB-RPEHJk",
    "NBUEcFeR5RmAi6nYKwNFgx3BRSeHyZzmIKSZuGvpomSMDNRPF-gyQG8pS2oXaxLLzmEoAIrM2a2LeiZNiZk4_TnSWxloFLzR",
    "4nnIhnRgZUFlT1YH5ZC5opU6DpQxyjVkAMZXN4vGoFtieBGcE9YForyibPkAlZRkZoyXGZQDSJEpclYvQ1hidmjSsbcbOHY0",
    "N4gjgOAwXIr9uwk9oVzXZRFg7UkI6_2SJAFtyHGuP0YjpLZ6Yb5OfOwQ2JgniqUEHkA6yLLIFIwWRD1ipEAaCiWMBpZ4iNPa",
    "AgXZ66BrB6WZCqFMkyNqy30vvNAEJLi89DHl-KOkPtDXdFFncHx_aW3AYB0dONQJ4ggVrGUNlbd4hvO9yuJ30hoAhKMavuK5",
    "TLXcATkUgmldiiyU1X1JO8FrYpRe8FMAqpUjSuFVV_oKrzZUTGe8RDfPFpY4CsYQDnNku1FWJJHANM9y4v_drgnf6uO8NJrD",
    "npqNgFs61_sxpKlDzdeoc5Is1pwCQBV957uwVZMcCV6TiolAmMZsFQAbNdM7bB6xXgp1m3JxvqnD5zERpoUjIVDXop4rBSaI",
    "x5IlJ95Z7_eaZSHzonMLk6nIyC8vzCdxGzNFrQF5PFtClRP8OqWaYVN9RJro9XSyK6Gkeb_ShIV9-TzMK0IpQK8BAOQSg8jj",
    "VGuG81vHgsCn_U5Zx5XAn6lOCNjbFpzvanLGOIhSiEZILvlx3eWaVoKU2tutBcZ8KEXMa36chXYA8Ql0-P24zSE3COZYqxaS",
    "Is7xXqudmoIWSrb8VQxqfAukXpLezecvN5-ZeZyT6QoFEHxSSnaiX2B-VCBD8obu00Vd3C_Fzk5mUzingx_43GUiRrFVDhEA",
    "Pl8ECNkyY1VGHCIAlBvRKtUa7qaCQwN6FaUV_cKtLWtIiREpZIBjpO0lsgVqvOMwNIp4ML9Jp53MD_YRz5BfMZAGsC74DUu5",
    "4eva3SVN8OakV7YWysOoo1wlitqYtuhnNUFDvVwfGM3WSZNzWXt4fSFNQNzDMkZzjX4iFS4ZZDBUDwHnox6SOEozdTftAxkY",
    "VNAtGXveI1alg0C_xL8j0EQQShKOZKGrKONWDVaXSqXUfdrnaowdI20Sn6gVWf0SdBpxCE8kamif1M7vR1t9h4DB-XqU1Unk",
    "opnHCKcDk3HqikNMFNm0eT6JGEm8Xi26Clq5LIgRlujRkAypCyRiU1KzTkOUAJhsCenHkwjnEjsNfIOguWYsAIRIhX3TUR1y",
    "B9NhGJdD5ndhG-0HsF2Xva-uJdOzmkjs_lYfd6wKyoHo2SV-mvwLsSTEWYez1gWgBYdHWj04UixLJIGxKdiRaK5v1TCp8FKk",
    "cipnILjg7FJ6YTV0DhoKXDJBtYFiPK7Y04001rtZEh0WKLhciTohT8x4LtUeJzGh7i_9ghDGbEzKKOf0xuM3TCbBb0wRHDtW",
    "SYSAykxS-jjW-lnxThwS29oIDajjCFSueDBCZPCjjSTuykpyro9B2npaS3fHXMPKqUbBcbS5S5FeiWsZR9qbuFxAzLjHICzL",
    "TuAamjdslpORYf4W75GHsyWVuGtdj0AEdyin5xbtlmMpDpL4LUs0cD4hi_pLZHD9uMtfaVQ6vwCYODeSns7lVrGNq7dp_sOI",
    "MglIUrVEiVXSTKR6VoaAx1nDinCIQliTVxSSCwQSPG8I9HluXGwlJ8uSnFDi1sjp4CnZx6ZLMcha8NZp3e1ofsT22Qi8Ou1Z",
    "XB7UOwc2laA4AjYjybsiekmL2k6V5R0YJw1jmh28raZhDTnTuov7QWlisf7ALFlXt_TioqwgA9cRVeVgnPNBYM-7GgA_53iO",
    "uC4aO2svQCw6e4qc4AhNWDhE-HCEQCcvsEdz9x5YgapC-ywKgPZLUMA8InGH3ZQrlK8k17PKlHst8pjGjvQPYDcUqBHx47lD",
    "cqgLAlc3ZpRb8pTrl9GDu3ZwYNFPIUMFvwzttI_EZ4WC7i1_Z-X7GMamFH3Kr_YEOWrk-1mNeOYvaTLc_sBJWbv7SeVJfknG",
    "knScPaFHc2nVarv3cX6vJ0jP4N2CTbToriEnlATbsiRf6LzcWSxrKYalp-CEV2sUDtBL7z20zgSdmuIEkIHFUazZgnhoemGs",
    "dSkKPeLJyhG7-IKTWG0wqHin44tpUrze3DAva_xpjptK1EduAHTHTt_Kxw7rVbhA-gWoDqRIcOzT3fUOIVOsIpWjGUSl5e4H",
    "F6QzcnbTexLt8Vs5d6YEW0uTzjhCqmLlxq9l657HwI7IcXJHJ8l2BBHRIbkyQsqRTlPBBMKfKEocNw6HdaprxWYOA3ErT2lX",
    "HEM3UIeLWV5Ac7727SBmmzSYB7_hdCN3jNMqATFSBkNN5LAzGcNhjBD0saF3hmgW8U5StFR2JpnysKnKqo58M-lsK8FvT9rQ",
    "98WvST35K6lLWeF5joUBs9DdFbN1Zn9GPMjtsI3EzhFyhHFxSjxIImC-0H5CagLaDe-EU4gH70eNLzzDtRrjKmurVS0lg7o8",
    "OKLcgSa7Fg33RB9XfCjHKrdjZpPygD2oULoblOmdZKvOLOR6xiX2ijfmrv9q4gJs_itW9MGrwxwJGTEk9YJyi2CsAJ3MNHUR",
    "y-KS3aTee9M-QiNxz-5Hjs9crllsKQwS8GVawLuLJScx2uWh53MVPi4dNxaa_dNMOIdBo7WRZxzbNDjwF-TMhRtDO9Nt3f-A",
    "J9GHajwj7ydawDGqu76YAx3wCgYmgSKOl_KMZBv6ziQZl7Y6wZ24Jz1i5JcYcGAcqjVhmP2ti2xXY6O45-8Urs4h4fp7GyO_",
    "1zRmkZh1ms04N1J74C71vMokQLuMUENIDy6_D2W9gYma_ldL9srlsoZDDiGGhkxkkfIw63Cxc6tXndGLJfWLGIG_GkEDXzvJ",
    "PQ9093WOJl-bRMIbigjGgPKkWlKTeJW4ewDm3NLxqtT1peS1aY8Q1f6GJS541rT201-eiFZNV1ohAN8NHqQvcHcX01imr7XW",
    "cvf2WlpDm4hfna38ObQptGMVEeesQ4DtPEMgIS_7XB2_I3VUznRzAkGk3KW5n_cq0kAqz9T-ntYw8_nauwDrFzEiIU6bpDC1",
    "A-oscJK2KCXliXgvnY2V__1vDcjuWhsjwAraZ9o3HWceF0BD_hzZs9D60_1uyJ-kXpn9l38qf_Sv-P83s3174F12AqPA_u6w",
    "q0kkl-OIwOceX1MzRtBiB8Qc8Zbl7mKKfRAYc9DkMlBIWvNqoeR9CyqawiZoh1E_x1G7_lEukt8XqtjVmf53nH84YFu_6exc",
    "3nm083DnFj7v73y6u7zzePfUzr2dye6p__f50ZP39rb3NvbWnnyw9-Xz659999Ufn02uP7907tsby88e_sE9b59qnp9ffv-7",
    "__z3b85c--bDybN7956v_8fzPz7-5t7l7z5-_N25i9_cvY1_364-evbgz88m959tv__8D79_9vDyt7fuf3v_E8z89vql57c-",
    "-t8v3nNxF8Zf30phicIMWT0YTY8FBuMwc_d1MocUKfdgUcZYQ26SBZn7PU7m8LfskLQRmVL3__pTFrjT8ayMJEvL7TKaVdM1",
    "b2IUQI1APqGOWzMGqlQgMEjBM38Rdwuph7_-FISIUnuAEriSXSFkzeJV5_MeySChYxveG_OyWuWnz0J2n7Fp6WhMruJzH-qb",
    "sZvBgXpP6_Uy_NlZnsGLzTM387-d2bQn9zOGQdrc1yF1yO-qcmzpfu-WtdMbfGTGusufE_uojczuCpGze5HY2PnLziNg5dTO",
    "BJhZ3lnf2cD3ld0L_Ms5u-d3toCjZZnFdQ_w_87OFp63dm7vLu-eBg4nu2eww_3d07vnsMMWnrd2tvmMp035dmvnNt40Z-1-",
    "SAwLOjfb-8jMRzxN5m_irztbvj_cebh7YfcMnon8O_yGNQ-wCm8w1uyJWdxxA7MgSeusdWohenLtQ0hyrjnT6U553P7YFzqJ",
    "ZqIl3z2Gfsuw3f9g1kOsoQ0fyzrYBrOnNjyNJ0q_hfUfii6PdjZ238f3R7L2kZx7St6oDLTwOlZehFbeJo9gyfcoH75BU2gv",
    "9oFfvG1WMHuTdoVG9yHPuvy_gx0uQPdNjInWmHVLdnmMdRcwzt04vtXSfV3stL5zF__vq660Jva5TT2cdLfFMhfFYzpnIjpt",
    "4O9daEYEUDPqSP8-ENxwzcrOPZFg4vZxfsS-lOEBz4aG_H5OJCA-G9l2_jrFLU9w2HqAvysONduttdSFJ3HmPefFO_DABUGg",
    "aI61lJ9IpX1UXvELfUq54S_usA4vrMhb-pqYeSB6uDnf0-VRyxcTPU8w92iKYTlZETDx8YW_93DGp63YeSBraPeJ6H_PyUb2",
    "v0-ZNAu4vbdoa3hY4muKc4y9h1NotweQ5bTM3oQUH8r7uy6mJup58ctDiQHi9t-A3IcSN8t4Uh8qJzTySzyuuwjcFv_TA5T4",
    "oexxcecuzppimH6cxpGi8MPds4o6sTf557_IJjgJ9nm6uvZ0dfvp58tPV1eern70dHWdI5-fe7p65unqVf-M8cdPV28-XX3k",
    "5nBwReZgwu_l1Uf-AXP-JJ-Y8-nT1WvyvN7aZyLHXWnteZUyrG7KnImMr8jIdbd2dbUlD9Zuybifz8-tqWyYzJEb8qnnQsEL",
    "XpeJTNM51-TVKdl_4mX-xM9XLS7L55rbk7KtyRx_1vTcNXl-Xx4-kvk3RQsMnpL9r3lpVa-78nlW9NL5m84mfL4jgkH-FZFq",
    "4ud8LMb55Ps6Lk_14p5-fGollRA2_EKO-GhqT86ZiGqq7A0597_9KrX_Z94mjb7w7AM5t9Fxxc_5RBS5Q30JiStTvfQI58E1",
    "b1u_5-fnvX28TTje-Foww7fqi6tiGdX9qvfRsti_sZX3I8evyf5_kW0bm6sk6yLnXe_xFRls5lwQOR-LFi08OLtti-lW3YOL",
    "iwYDy17rbZH2ij_rsmiKkT97-Sey8Io8eJUb3LodxP6cf7llqy0fQRPZds3bU6202pJZbfWxPN-U_b1ezqrLIs85P1_E486r",
    "IvO6WHJFrLQ59Z2LI5GQc862eGPLj69NMax2I8au-SXbfr7Omfg43RbxVmWm4k3x_4m3yap3yh2PAZX5jhNY_T7FamPDcz7e",
    "z8tud7xNrrT4YbmlY4tznEbepDy3kQdfL7V4Rs7lbjda-GnwuexRuiWvNsWw6q9LLYyd8Zj5XA5tYk1j4dL3-XNZVmms3RDd",
    "H_t9FP9K8h99n_O3_ZwrLcwosDdbPPCVt8k1z-SrjqO45IYX7E-iUbP_uo-gB1M78NVZ_-qq9_ia94JIomaZxvul73HF1Lk-",
    "1hzOt5yyDT-4r-oLxd5F2V9g41h6fZrjnL6Nnc_I14nMueaF_NDp6OZMvIM2Wzqe85-XZIctGb_bypXrbi15Q_Pd543f967u",
    "3cL_u-grt5-c2bu998XexpPTe1-i0zyP51t7d_H8BbrPrSen9q7vffnkjIzf4XwZv4FvWzoH6zcxflPG-faMGz-NOVf31mR8",
    "Y-8mdriJbxtPzsqcazKOUXx-2azlbvKJ8RV3lu-A-XwL670M1ygT_vL_-pNzOE3Pus65bs_rT1ZkJ5UHa3V_2fMLvDuDGaew",
    "z8TN_wqfZ2UWbII9bzY6bux95p5X8PxX0eI9zFprnUsbbahs0Mzb5DNK7XXE-vPQDvqLTbfd-AZWn9E9cT7khW9Oib7wkRs_",
    "jZUfwKJqt7Oi5Zr4DXam_txHRu9gllrhKj7X8AkbNGs_o82fvC_Pa7Liptv_PfGMysO97zodbwAHH-zdkh03xKveVv5zi2u9",
    "zUV3Hd9s2eQGzvjA-Z3af9D4F6c6-a-589XXX9A-U194HfeuUBq1A3Y9r_NhL9rEY-9q4xcib8Ph5yaezsvOxP89fFvB3y2R",
    "wGNjjfZ2Om7vTTj-fw"]
  | 13 => [
    "VVntjty2Ff3tBfoO7BRwNsB-pP3Xnd0tXMdJDcROEbs_iqI_OBIl0UuRCknN7CR9hT5Ef_QJ-ghp36vnXFIzMmDs7owk6vLe",
    "c885lzY-m5i19aPxefatiSlr31rfqwfVzb7JNvjLL28-Tf1GHWybh4dNE3xn-zlqXruZ_PnK_S60R9U4ndLD5p3Ow03EYmG8",
    "_BLPZDNOIep4VH_xNptWfcg6m9TY2Mwj39qYdKOnyfj29WBdexlir739SV6T7tOk_bL05vHejr1KsXnY3LY2ZcQ72zQYRBHm",
    "hHcmFTrVhHGcvW1khcYZHfEg7t8_Wr83eKqXK53eW8R3gx8bNerYW38dbT_ku51OiDN4lQej3uHVuhnmZHJGuDtn1C5EZOzB",
    "Mole1tJOuxTUkw8Hr3SaYvBIopVrO9089TEgy3e_6SbdMsvXznT57psQlXnW4-TMlRptaoxz2hts5aXL29sRmXzZ5-2Ujs0Q",
    "XOixJWe9mnTMtpmdjthaM2xUPk7mYdOFOKrRIBXtw0YjE9MUuI8cPsxTNKNRr8Mcc2ganSRkd1SvEE2uH67eh5gH9Wo0ES-a",
    "nrfnwLlUBE5wr0lv1ti5yeG7cDDxNVJ2OWo_d7rJc8QWkYPOpPImlmRnPYI52Dxw29aX0l-hAqlUEqVjHZ6d8T1RFQ0W8qpD",
    "Zs2WtzUWmfFY851B1CYCZAb_nnPUKIj1wBhrhXeWoqR5l8yPM6LETndzzqyopIp19fO4MxEv5YeAwtsaKHI1GAS1N9F0aAwk",
    "kEC4v53d40XB0cUEpIYU8AslcaFA7WbAAwdkfpp3TmD5Adj9BmE2qG24PPfVzxf3WEZZFGpEImUh5ADLmJZVN_jBldXtYHT7",
    "-KsL6bA09z3gi4AGnduA9sHWCsjxD3-X1ozGle0PdkqjPqpB74FZY_xltwLcR7xSCZKAaKAqBSAE0DCJ-JJGYmZa01kvGME3",
    "3wJxWf0xWpZfEa4Vzw_Is91rlC4jXZPTjQFi2SSbrepAAtfJ_mTu1KcZ2-xqa-6Ms2ZPhGI_ae6QbHzoYsDuyRpZwKvQwK0U",
    "ivE00U55UylglVH1M7pB6b22ji168eIenfKkkIuHcvcXQ87T3e2tNC2yiLUt87ZHyAWjG6VdBsmoW7AFV-uNN5GdMaCm0t9M",
    "4hhSVlOY2H-AS8RiUxDqbKLgsoA8Hx2AVpjiDuthTVIZft30tjtTp-2iRuJlQ4VdKtlZjx2Y6x3Q9bTVTSMQ7wWMoUeXIyV8",
    "D5gzhmeLlBl3ROWc1QKLeBwDM-JbxT_AlqjK8c4Hb7YAyrntAXdQNcDPNnnpd2na_qP8Kj9r3FJt_NWw2vfWT3NWHq962IS4",
    "UcLzPotI5BjQOslqh8gmUMUR9_R3t8_XacBeDkDjdWtGALQCNs1RWAaZ2x3fAxGgIePQ51dsJoKws9AnYQpkU5L0ypHy-0Eu",
    "NwG8iVRX2IfZtcqHjHIxAjBXQW_RklQqs1C1LIBnIklCdwBHt6anFkoV7Q6h4dbSjaUZsQ6bBxVhFQAltAaIp8cqEjFosPQp",
    "Wn8WGkQEo21bBF-gjFgscLO37axda7uOnM72AbqAUt61t-YwBCDOPOMem4_AgZkkMu5nQRQp6cy9yH2hs6VlIIfBIy5IWGsp",
    "xssCrfFSeUnbSqbUbwoH1wVag6ws92mVbO-lhz0asUrh5qvNYzT74Ga5JwJVSIkFz5BIQDRL8UzLmrYosgM22rfQlus3M3Gi",
    "_X52vpYXHMLKeWCKC7AbyU_ZjqgHmBfgL6z83hzUX0N8Uq-RnQrIJLIIDkHh5kIiDZQvLYk_M6zVflfqBffB9-TVh_XmVDbN",
    "4BcNvoGaAuOv2aiXO_L7kiqDahoml6X_9d-wkO3-fn0NBn8LRNmMcHgnyhsUMwm8kI0mAxpDSo437Ff2tgEKTe0fuyRRhEaI",
    "S8gaCx0gQMNH3q9s4Sg2oPVzoU7aKh1rtdVLEP_WtzoNW7XgOhWE1M6S4s3orIVuAVBDZyYaSo7HgoXf2oBn2WRUF-E3rah_",
    "xScSanJboeFy4bamV_cMp8RG5cF32EKiCjVuJkh6HVsSAG5rpJt3RtBbm_flj3PI20SmAG8LKJgsLOHlDexPSvWQR_dYeEL6",
    "CnwgvF35APYo2Z114mqQaEpojQ1tlhbhR59WPSqwbOemLvAJ5iIeb8uvfAiKXYzwfYa0hUrWAIXYRhgCEjMCdUKipbOSCBqW",
    "26ilzYy8dFEyqGd8tWZ_CIdRqKkE-kJ8RFUMIfyl24uLTqW3F50UDmED0uY4QywJKMYCimIs7SQPCbEOQE-DsJiDk1UslUsl",
    "oyeiq6mq9gKxrXgC4UA3UUEqA1TRNBof-AQ4Nx19g6kjx9lskV7seUyCnWT4F95CiDEcVJgMCWiKXFZF7_SIGuoih6ypWeh2",
    "2baiP8ghPClxJopi154JhT4RlJgt5fC-cqr8skQghK1QJ3JwgkIvTqg1wF_o3vi9heMX3XVpFvB0M_01vs-zOG38-N1XoFSC",
    "bI7Hq7U9hqnlI5yRsNsTDiiHLBTKISg9LnmzGd3-tW0q11JYQnuyVekj9QeSGA6ADA2g-FgsffcaVxdHfPX28_Gl6qlkheU8",
    "1MY7hOjaL1LVYCINbxI93AVY6rEyxeV5KnFH4Kz3DxsOObD0NEwLLDFaIamUWDzTUW2WbhTnQMLmFqq_IqfjimGk9T1IEERk",
    "Foo1nzBppLYkIp2dkCxYATfDlFAkPrILWSGaBbN08ElC6c8KFdUxtbNuRD9H3BriNawK3nLT5nbzSDdIIyigqENKZYqzKYHq",
    "D9KjZdGFqwK5HXssHA_7bWYP4moMGZYmDZoANGtWS2RBMIlFDkYmU0iSa7fUU3wvzpnyDi9Wy0hDQY2QjqTNZdiiBS_uUVdd",
    "FZJ6iklIhpcj-drhNumfP2GYQ6hXkolX63YWJMZK6z_O7JeqTFGLG8Ur0R7Uksw5lgGdcd3RKNN6LHafe1sQOwVyMOcd9OVn",
    "3lOQS0ElD4hTo1k-gn6-JZVIyyGC4tRrTWXcKfYPY1xNPB9JBKHNYxlSXry4n91CnXubaLDKocNvf_9Zn4LghPh4RsLGQBTS",
    "G-SQk9piqp6nJQKbytgkXSKD2WI9RP4ATIn6Uci7-tHVAAVjtuiIRS13sQgYHO6c6zmFHB8oSHWok6I7LjqHF-n0ofoDgd7F",
    "WiSKc68fihjVmpLs_PIUW6xsR46FOjezCmQkPFPhhvdcfIaqRrq8dHQdlMsvABqtQIbA8mcn1PHAgc7uusJZ95yGi0t466WN",
    "ZCSVQQD9TV9sWgQP2m6L_qwAC040fEcFRVEMztegQYOEAuLlTGdNVYXDuX9euViXRDuhLu0O-pjYMg0GleKEnuk2qsqczgLI",
    "VWQ20WF2QwNzv4Aq1eMkmxzPqQw5SPyveYZCLtJm4QOAgtmUOVSyA2EUW1_m0mr332l_PBVYVIG14cc6txcWW5-ejXwPjBSm",
    "rkaoRg4KJI8UFgJGyk9-jotKOGwBvqOwGFcH4RW8fbMoDK_8sPb-_bk1kfu0EjQGdmp2y0mRTC6Gdub8Y0trrm3Ro8xmyAJm",
    "GqSctVvaTIs5OEhcscxzMrvlRLjIqQUDXUZfmaTpkk-sJuGUQUW7ehAlBx8odhPgXn6SDr4VP1ntJFz72S5Esc5SINNyOBRv",
    "wvNN1NOWERIxygFrj6F7xpWPC_MrOEZ8ubcLefO707xpZaCuMzrmnX0ZQUn4pZyDHIvIIV85nsmho5wWF4Jtl9GuiEQdK4r-",
    "4KqVyIh6pgpZawQH61Hkis-sioV9yykgEW_C5BZpW7saGV9Op18u6PY1HCTcMFxTUOdz5tHI2ZtkCqZ95Z7EZcDwua54f3oC",
    "w5q1nOkAabaCdjuzmihPLpX1kvNesTboozLLSIL35hvTnkWC2xanhi_b09DFsmhZWfDfCEL-zFq2xduFZUZp0SJkri4fNHtX",
    "PF9Z-jTccs0y7QIi4Yj3gEjkfItXtuDGAnOw5Mo5mGPxbqWhtZDJxCNWOMrCEtIwSqPD5ZxFPNKJBkcQQ8F1jfp0hc7OEkHL",
    "PITkWrcMvMKw3uNLQIFIXE4KPtt2eqxHP3KOKiPCyZx9_b16__1H9eq7j29-mMvBc3GenLZNuv1DwnoPRUJ1K-rMBU6OcFgf",
    "DFQvluZxxGAm1kMXXJ5PZMh9M0ZvaYuQViMCWAlrcgec8JzZw0rCDRb4f4CMDupVx1NuL2ZhMRZFJPAWHjIjApmuRYC2Kpvn",
    "fC2-9u7MyADOVq0OTsrkWjmx9ksJtE7n5X8Iqr4ULS-Zrc_sNLKg1Tsw83H2IaYnOL6n8Zd_u_LBH-V3cqBY_79__fefaPH6",
    "3xCNcAVblbaqsb_8xyNv8v8g9UNhKvnwfw"]
  | 14 => [
    "ZVhbjxzFFX72SPsfKhOB19LuLE7edmdH2hgjWwkIIeAlilBNd8104e6upqp610OEhG3A3JI85DkSyFIMFuAsZg022DzkD8y-",
    "zT7yT_KdU9U93UTa2Znqup3Ld75zTg8n41QfiiSXzu0PU-1kMdXzWnptyudNIXX5kizU-S1xXqaFLrXzluecLurcy1KZ2uUL",
    "PCxdZaznuaulV7bknzIXhbRzXW5Pjfem2LUK67B7qnPtF-Pf_FmVqZ79ZXt7MhjvTMaF8lKUuHF_qIsqV4Uqw5m6nFmJy-vE",
    "11ZZVeGgZm5qbKpsc8N4J1MyxXFTky4m-5n31TO_P3jmdy_gbzwzthC4JDPp_rD5rozzQ7Ezk4c6MeUI_4binQt7EMglVld-",
    "Mhg55Q-8t3pae7V50LPEvijVkTiwVi42L-x1NdoYwJ5VLhe709wk1_ZeK3G9r2EZlS-2hpNny6mr9sY7cMCkd_tk_7zzi1y5",
    "TCl_XugUmuqZTvi-LYFThLouyT5b41xPxlJkVs32hzuyFDKPxj9U0gkpYCc4SphZ5YeTtUZ-UcHGrp4WGroPNmd1mdDpmxfE",
    "X61KTAHLp3wfm0zyJG5gT9MjnqOVZfAKRiMWehSVFgdJAsfoci68EZlOocUw-lbmBo-PtM-Ez1RqkpocPSKPjWRVWXNdF2wl",
    "cQmS1GVU3QVPNcIUSpZ0_LNv1cbvbW93bf-y1YUSL7KflE0yabFLWYx0Mt6REwGjBdBDAEjnvLELWEmYsgCklTlUdn9Ic3P6",
    "WZJ8wcgEKLe7s3ME8xqrgW2Z5wsa6dJbk9aJSvnk1mNdtMIrVgmyGrxqVdqLgEGqKoxwbkl2ea3EcusQJySYLmmbpyggg8LE",
    "icpMnpKcmteLRDqFpboXf-wh7eswZBftD2PI7Iqu3_-gElnzCXTaNvyqEz9KfTpENHk5zVXDExKuLSpYX6ViuqBRXfq4bxwg",
    "JpxNgBeIgXiNU_yplAFwSR38yTTVdD00chf2xJtupFOxD8QPgY7UZ_vDi88998zQqrmMUMIJr4CXSnFJInpzmJgOCoaDiWcm",
    "z81Rs3I017P1SfRkPQ-YQlBEcjAUYUSZ3MxxYl4xeoqIntGbrhM60HwaN5Fagd7iFYlVgO3lwFubRyPpvUyyy4c0ItSNd3xK",
    "_-yErdNASV4tRSUtoFnn0m4hhvUc-M7VDGi_9LZKMvGKquoptAUmPIz-R2iQmgIBFggVqicUi0lep5j2mfSjzBf5UMD15PA2",
    "wAV5GjooJ2bWFGQmRFweoQqNxg6ObRztpirX6pCONGKqgl7ngyXOk0YgSTDQADQEqC5g1NkMsC79pHeMqfjwQ5nXJAtgaMS1",
    "0hwBAO5cj8ImY11WtY884RTMIklhkhULFPRlWRBuh9FM3lTDyQwIBKIj0GB3VeDOwD2JtFPcnmrQSqoGg27Ga_RUBIDtHc4Z",
    "0IlsNzFVxXxNAehN0mOimGU2QpoRMawYBruv6l8e_4yrX9e__HjbA1flXBE7kGQx8BIgze7-9rmhCA_2h_gJiMFmk5AQxsQo",
    "hFGiH4V4CIzt1XVgopecBs-TlTy5htRXSYLMoSUxHZJBht0iw1nwXhmSAZmF7DkO6kZtaU0JV1teybGiLXENQgGyx8SNGDay",
    "Rp6VfDwYOogbrapJ6jW7VaBe1TIDcuwkRAHtgAlylTRhlCqXUAQHT7v1BHkzSVTlt4nEkYcZiHTHDFyVFqqYtm5HEKXEEtug",
    "5czvcq7KG1wzK4KIQ80Q4HaeIpC4PFNkKPC5KI1_lW1GPE1A9e0IrLOQwhVQW5Q13cuTHLqObiiQn1Da5GQk0SAMJYM3JQoA",
    "xnFAwUhcMUdk6y3Wr0yFIo6oyaAHnlWBMUir6ZqTtXdtJnHMtL3ULHrljPZCO9HIUxiIn-trlFHhP2JMoipHNJzJw6Ao-33N",
    "KI5XloirJDJKjDc27nBC1hBM_FYrKgnYPmKhyEvSgjYAHg7yRgfIBHj06pCNXhSzNFONspLtueZqOnSjF7eFznNyY8gmnBgN",
    "J8uQ8RIkwJgEwM-1YvlptM7mAman8oj5KiGXhdqmoRhCJAq-JpXECA-BS3Fl6jlXL1ZNW02pNGtqqsBgVCXrll7ZDxAFeCyV",
    "oOppXuqIz0tkaZ1HKKtUdyJAiG5lfJmQ7FGaBzWOUGs1VC72YrkdIiDozCHMEXAISfU8MBisVCLMoCvVYYRB9h9DutWPYTRV",
    "OJHNyRVbj9lj3EaP9aa06AGmV5eDvytc7qJ-xD1OkxcIg5draypEhUCyo-qJ83DkEbYgZRnKlf51jS0vA7BcIlNNYlxjtwpC",
    "MHAtacL7KEAtoWsGvGw7_bbavXixuq6uo5hqMzoXUoSgiu47shq5pIxxe66voGM3RhdRYBZTHMRYChWcmFvKS-4o08jhhFJ4",
    "jRRFmm6AlSo4husoGoYs38hCFa5rsWtqT4rGC13N6ampukLajJL1xPSbL6JUGgHcqBg2LxSgB4ESG1aFzQLKqxaDqBVhH11S",
    "VB0R8bFAaETSbvQ5qhko0KNdLg5FpsjLqLJARHRDa-uge9BZRUtkMmVP40HTPETLV6aqA2UPznVvDEzGTSNWOtQvBGonKAcE",
    "WbjLAJe5GunCNcgi1ue0wmkjsmeUugnpHLt3pxvrlIqflMdCTUGczbnjUKPPowh4g8pTciaOwnZZgbGauN2gUqi8BjTkMBP-",
    "K9lW1JXRhOHas0evv_inK8g-r6i3akVGTwWYw9EIsUSMlgoUg6gcPFdWrT0pcNrWwrnaztAINJmSKrmgLEYgIzgFHEll8uIN",
    "5M51R09XRseSflQetIXe1V5d3nRZ0Z6OSSgVckYkZAhJHpEc59oEpdLnFVxnWyRT_CkKW43ZS73-KGRRSmbkNQ4lNA0ly9JD",
    "coJ6gnvPkjXuNa0bekaMjohEjtMzdAxknig1vNA0oszYAWGOvRkr6peiPQMmApp3g2RM2PiFAqzj9wPnTKIb_QY9emuyfWAB",
    "tkubVzZ74c9MUzYvVSgC0MzoQ52iFpCFiRxBEcVStAy9M-kCLVpMzJDH1R7HUW0RMipGlYyR481erDxns9k7g9GgTxSU5urp",
    "m-ROM2Ne0j5acdIDNjboouUlriBSgCcHbaexU2w6Ith-2qLghV53Bm-k1JCX8xpA7Iky9fIaopubXFgk1Pa0h8AHwMSKhB5N",
    "ei109F_MgiBbD6-suSD25zRiK1kTuSIWRFG0po1JuG6npFnI5k7FAcilL1aGWp1LX5RexBrrSi6mHgp4esGQKdE5lxgsC9dJ",
    "H-v-5gtBy8FRelzSKZYGGwNVHmprOPODczj--MLWD0SrzIodOREzbMFAMwGRUJveKvG7C2VDa84Fv-basuGe9ZmFTAH_tm9F",
    "1dxW1EQHLnJWJvMZ7JlYuBrq7Q9LM6RSNCRnionZ1atbqH8hFzfyJMv1KlQi3vB9JCGK8aOyyY2SZUKUBFZipQLqmn5T8ksG",
    "H3WHXVTp6lBseTm3oXPleI9ZuK0OobYNrJsvdNm-2qLUHt6xiWCRde9E7y1CH0Od606dTxrYzgygabmeb60f-rbQBXR6PP7q",
    "5UYij06Vt-6imCektcTsBKbpou0eYn2WYAe3IYxk0RAc7BnyqY0ZL7wkavIVv8FiSmYUxMzs2v7vSvtWrPNSkSrjxuhcdsLW",
    "TSnCVcmcYBNjJb6XasJMdDN6eBtTx7eMnT4no6aXK_hYm9LKun0XRl25a3NcrNaoLf51_VmFXjlY863huXO_vt1xLqJI66Qt",
    "WBcAyBQ3uBrll8oDNkN9xqzTBkXv5XnSsAAlAmV1750OZIT8oQP0pte_j6tM58YZfKGjRoRV7prJ7CFo4Rrg3n2XsPzs9Nbp",
    "jdMby8fLH5aPTt_tjtrqPtH_fVCGq3UVRljx9PQmPu-efrI8WT5dHi9_XP4He29iZ3fu0eltzP-IFd_i-zHO_oFXnSx_wuy_",
    "-PnT_993-n73zNNPl9-evkt78HnSXYn5f-DMk-UDrP9u-YRHj_H0Nj6070nvhjuQAHvw6wlux_PlzxjT7CedM59C6hs47YTv",
    "p1N-xrOfMPfR6aenf8dqkuU7PpPOOOYzv6c1_CycgRtgzdutVU5Ia7YGaXCy_Cedjv1PSIdoFdr5A_1eWwmzuO30w7APKz_v",
    "6QfJTv9GO3E3fIczSbJbdFuwBOTilbzmWz6Nvh-ThCzPE761vYG81LHECX8_wDlPmn3t3E_Lz3g16QE5V3fP3jt7_-yD1b3V",
    "_bOP2l8fr-7iO8x9uHqIzyMarb5YHeP7_dVX7dzds5tx7nj1ALv-Tc9X3-HX8dmt5pTVHax5iNHnYSWf_3D1JY_urU5w0sfY",
    "RaO73ZUsDc4M963u4IO7IEXY92D1Ffa9F-du0v3xlIerx6vvWx1u4D7oxNLSvuPV13gSTvmKtb3fyvII6xtZ7qy-oVWsM91y",
    "g__Hud7oHuv7Mdbz6Ozm2QcYfRn3daX-hqSAbMfBgrj_Hv4HC5KMtzAf7nvAVvoapzzC3vu8_r2z260OX7Q3HPOZX5DGLPX9",
    "ztzdrg646R5OvN_OPcY3JP0f"]
  | 15 => [
    "VVZNbxzHET2LgP5DewIIJGBzfd4vwDBsRxfHQJxz0DvTu9NmT_e4u2fXC8cApUCQDEfwIaAUyATkxENZoCXKkCGJApLNwX9k",
    "Dob9N1xV3T1LXpYz0zVVr96rV8O8sc7YYW2k9sKOxgMvvRLTnXElPGcZK62YT7LS-3o4GGTTsau5Zrnizk2ySlQzYR0zc-ZL",
    "wVZSF2a1r0zOvTR6KayXOVdvcSUXejjgU_Y3NuYx4_iNwuR-XQtW-kpNK1FIPslcboXQGRubGlOwJVeNmGRzvpS50fvwk7HB",
    "dOfKlXEhlwlGXnLLc0AvHRR0GQPopSkm2UJ4CJ-ZYg39DKjOjiuN9XnjGSbMGIBoKqH9_spKL3ZrXhRSL96aGe9NNbSitsLB",
    "MTS0FM41s0pCyoiK-oLyApnLgAJrmkVpIDey4XIpdC7YXObYyg5jFzGnVPHWaJFYrIzzWIFye1MD5yvumHCez5R0pSj2Rleh",
    "HaBK1n56dccK31jN5lw5Mcqme_vOr5XYL6SrFV_PRM4b12fv-82NOZBiPDe2YpwQTrLBF8jV5xW3C6mHb4_e0_k6V6ZGbSAB",
    "COpQlJhqH7TiXrynBCbc1bwS0I8BMrQHfQfQLdJOf3Z4UUkN-lhiko0vq1LCibHrlBlalrpGHmE-JlkNil2oC2TU3Pp0e03P",
    "XD3q58rAMwswGu2tFC6DGhdoB9pgfqfpz3VISvErYwv3ZqRsyGYwwwcj7MUalQpJvCuaPGIZJI9g4zAMjq2EUoguBDMrcDLY",
    "WnDrru5cuQyDWLkS_0rtamlFwWZrfBnfF7pIdXNT1cDaTKHDfImCVoIdaLPSWI3UBi8G0fY_gZb74Riz6zibmvzIFaazYDgO",
    "CszAZx8IW4GbFdeLhi9ESpUbBRvhD--aqmpQM_YR0L0GNhzcYEsEAxgTdpK9DZpj36F-KeSiBPVpkPknBkyFqmbsklesUDA4",
    "BfMmTDzXa1bI-RzAQfY_WXSv-Yy9WzY2L52spOI2BSPtSuoDoFeBjdAaF8wDqkvFYJxYAbNZfrG3uzfaeiVondp1RKztccQx",
    "S-sM032IvxZeKFxvTXirMnrG84MF-F0Xw8aqXWi-wUQlJ_NDPaMA5WKSadhYUueqKeAcpgJOP4RCJXungoWVc3pCMxTr0h6G",
    "teNJNKoLrilkkLAQSwGORMdh_NyKTxu4VmsGJi84oFNKpBEFw67Zlj_XWEIMuLCQ-IxXtYplpbu8zaYr06hiOyqyAsb-mvOw",
    "lifce56XPXWuWQCfPiQG3KEp2i2QXeqlUcu-fRLHSnwwt6bC1gvG51AVT69fdBksBUhrwwZFodOIrmThyyFD-maCWk_zQUsp",
    "tE9yyQp15UCX1AgoHIKikLlRvkeFxPG6X5Qf4wxVgmtHHYmw5NJs4NTBt0HxnEzLQZg1mKNXEO0cCkFJKxbcovphNRAq1-Q5",
    "fE_mjep9fO3TxvgRJ7tbUQpw21L88fJiXKF9yYjAoCjC5u97h1kGVHP0Fz76i3YGDIQdonjTyyso2jlhhjL1R9bUfEG4aQgF",
    "0kfk8CWHGZpJFezM6xqXGpbFARE4caAkX2gBH2Ch4UMl_iwsfLOF2503Or-wvq9DTrdVZbuqaBWm4N29z5cws7Qo8HsRG3SM",
    "s6BbYqQ2Tsbs7xvL4ky_ibjTfwEQAh9alGwOGpsVSXYN4kZVwV05SmaHrpQM_7pcWqJXdxoV4YXfflbDksFtiKhqYAFdFiY0",
    "_icxlOFrJfMGTKjW6RMjNawHMYpfuPTfAFpDLmVYFd78cv7013u32e5vZ4e__O-fe1gDVCMdCl5sP6m5_PmnIJmGa1wTuNxs",
    "iC8kOrprv-za06591p181bX38frkZtf-2J3c7doXXfu6a8-6dkNPbnft8xiGvxD2oDu50bWPKeAFnULMUdf-nx6e41t4S69j",
    "5hsYg6dwdI-SHNMrlArDXtPp1137lJ73py_p9IxOn19GdYhheH2fqnzXtU8SpMcRD9ZN8XCKrQHUL-mV8DygOqLb16nKhjD_",
    "vWtf0SvfUub_dO1_u7alzE8p5pgI3FChuxdSPaTbwNtj7Heb9oeufdSd_IPwEM4I4yxxeIYlICaePkmFQgsvUokNMRnqPtuK",
    "EpkMIE_xGhm4QUdPKPMG4-PrNynhhso9olfuJepOqdA3CVWo-5KuXyXwx7E6DlJL1y0dnVHRm1TxDmX-itIGkGHqjpJkp5HY",
    "KPc55Tmhci3RRdThw7OU-V6qe4vm8C7h3OAvDvBDAnOYGrxP123i8GuSfpM6eprm518IBlM9JCSPKNV5EvFRHOzYwuvUb2Iy",
    "DttdeiXkh7DvqXRPXbBVoK5N_UKhO2lgzknxkOdl0ijMRhDlVhqM59TRE8p8TPwcJpf9SMhfpWEOJQ6Tg9o4mcj_i0RycNON",
    "tA1uX1BhEyFhAPT-b7JAUOEoKf4s2jla74iMc5rIOaXT88gt8tzvk5vbFRHJDJAepGk_p5gHKfMZ3T5PwWliI5O0GfA6UYdh",
    "R_EVPLpDYYHJlm6fpULHaTVB_O3fAQ"]
  | 16 => [
    "XVTLbhs3FF1bQP6BmI0lNJKcRTd6LYy4QIGiCJAWWRRFQc1wNLRnyClJ2VbqAo4dO0FbtJsW6Kq7xo3Ron5EjR-x_QfCaCf9",
    "TQ85I78giMPLe--55z5IpfVH60nsEcNNzNpe1QxS5hFfCsOEaXvu-JZMDTERI5omDC4Jqy1rr9Oqa1_x1HRKLY8kzEQyaHup",
    "1MYjUKVUwILiH_POKlOG-zSu0pj3RMPUl7_tMzWoJVw4qJofc3-lHPaFb7gUZaLNwPJKaRBw0at-XylXmqVbAQt8SiLFwrZ3",
    "vYmMSRv1eqVJFDN9JUhIY82ahq2basB8qajFbxAAyTgGdNsT0iNdqQKmqj7OaKpZg2otfU4NC8gaNxFZpBHVlHwqAimY5nRJ",
    "9GKuIxJT0evTHmvZAAQVbYCXz9q1Hg9nqG1vwWvVuzIYWN6RSeJOSaIgYSzXGhEPAiaaPOkRrfxr_kh7aRWV_4xrNIApxXQq",
    "hebdmJFQKqLvNaAe0lWObtWweKTekSmzmQqgDoCQeLOCrvHARI1HhqoeQ1-_6SKDFa_z1CBX8qXg4KW5Gbh65b2KWWiapUD6",
    "_QSEamuKG1Z-SLjw477tjRsMqmRfBG67JlUcVJoPbrr1wM5HET9ivBeZRvNeARKpGCCRWuIaRAUkw5TIpZhivpIuU0SGLgi6",
    "MNuGXGnjw6FrS2NZcIH5C_hqpzQ3V2wCrtOYDhpEwLPpdWyNSi30fwVzEre9EiE3w1ch31ngRx-j8T5y7mNQU8VsPx6zkPZj",
    "U45t_YjozzgtDp5TgXozspSkXOF-pL0NE0G_Yeu3sUq1IQldlqjeAA63ti4J4mrd9mw4przOTSfIE_ReBxI3xY1jd2AdnmKU",
    "kekzW2vyjCrkZxTv9i1_izm7PhIQdt5tDOCYWTw_oor6CMWf55iuCkKGuAByzetgbEFAk1DJxDpgmLBghzq7fuNpSLo8bw9A",
    "707XwkJxP6o6ZXQFQwLrtI9wuHecCZ_d3Axkbt8bYLJ1N-y-7exjlkjfTrBPnlBlBtfzk6DwXFQ_kZYM1-BNtRQP712HOb04",
    "-IL2PsdzVdaVrxa-vqPGPNbuHdxMgr1FHpl3tObniR_jKWjPXw9mUUDXHFzIWT3zh86OWr7WUzwKHUxVK9-0cFhgefZR7TLf",
    "PaWz-e3ee19Y8b6UNU_SmFVGv43O8Xs_uhidjs5Gf493xpvZUXYw3hq_yM6yE_wvsw_ZVXaQXUA6Gf8C7TnWobXA91foD6E9",
    "gm5r_NP4VTbMznF2hO8ZcDahe59rnffv2QV2Q5xfWIzsD_yP3M754_Qgu4L2BFGH7nvXHnywXkK-zI7xfQGvzZzdeHf8o4sJ",
    "Dvbc4W4jj5wPoo93HLZlfA5-H2B_BekcVq8K_kV-45-L_CyfE9hfOo_h3Xo46wvHNa-PjbsJq3dF_IPJ3vTldGf6erI3-W_6",
    "w-TUypPDyRvsj_F_6-S96e5kf7qV207ewfZwuo11367QW0uc2ZMCbxu615O_Cv_jySmkf3O8yT-TIdY3zsfZ51HhNYs3hPX-",
    "Lb2Lj5i7hbxvEaw92Fj5TzB4mZ_c4_i2kA9n8f4H"]
  | 17 => [
    "XVXRbtw2EHw_wP9ACEjTB_suaF8K--4AN3XaAk1qoC3yWFDUSlqb4ipL6s4X5Df6F30v2qK_4G_qUNJdnMCGLYnicnZmdqRS",
    "SoqFcRIShbQp1hXvDFebohZJpMU2tWR-C5yoMr8kmyiuuWtMVLcp2pT6y9Vqedc3H5SbNn1I7dCVH5Z3sdiuV9Ep92l7tlh7",
    "cTaxhGWvksSJr9V2VIpWpJviRWGAYLVdrDtK1gQsAcfKogTAHP_WQHixp3zMZSm-uvri3SDpythQmemyop5CxaExEkyG3Vlt",
    "OFy-uOptlZ9fFkbJb4ogtXgv-8LcKkWu0LiRetyS9rhhSq1xuBj0QDuOQL5dGLNe9bahH0GUBkrm5qH3oqR2aeMhOLMxSQe6",
    "OltwqEW7sWFjSxnSidOWbJU5LYx1eflE4dqaVqme7mN-cNwyC1NMLIDL438U4h1EqVW6EfpJl-dzUescGM58JBnfwOZSqgOI",
    "XrWp89tFTAdPWWpQG_k9XU6SGW9DM6DXTXGtbP25-YH8jhI7ez7qEnsbjPM2xizUrPN63tyL5_yqN71VcBlTBQ2T5j-29LRd",
    "f2wVKPf7_ZIzp71C_ZE0qUeZRnSxJUqFqcQNHXhY7hVW_PL52rVWI8GwQ6ovvim2i5KgdRjVn6RU2pH1YCi1NuUnifyspokg",
    "j-LndtiaBMfkor-XoOC-2KJH7kYG5xoZ9LOvr5999Qq_GXpnA9focUQecfatckfmNQeOaAoPYAc_UHBAUh5yjZk458lqzQ_F",
    "9jNpzxYJDNFFhUIhw7X-ZTuoa3NnN6EBtApXb0Rh05dWwXew8d1glcw9e8EUwdZLeP5mB8p-ykACwQkxcXDp5BgnXSfBH8x9",
    "kD2sGm9bCVllc-371paUqoxVn1CY3Yjz_KmXbyncWTBkXikIAxCs0kXv7SGz1mCU5_zYkUZOh5EP85YyN8HcDCo9plZjbhIh",
    "1PUDFm5V7ghAv8dNKEkbpcZqBTPEWdzWRlMSBYNA6SVSlaTJJ6nZM0jBFdzmebv2fPQpjo2gBocM6AHqA_WnQTX7ppd-8KOc",
    "Utfs4P_TPHyMPu5wG1djdnDNJz6CRWhgBwQQSEZxPB1vuKO1HUanzDBCTh6QC-GQNJ3pCJ4O7OIbGBfSUu73PBft2Pu8-QDD",
    "RGMbmef47DjIZ49_PP6Ln78e_3v8-_Gfxz8Xyd6TsdUOpQEUx8Iz5-ZpItgEFsoh5_oUD6_ZqUSpk3nLMNg-ZjJq1piOWTgE",
    "AB45mn2QQ2qmd4q22MKUcJSt0_RmkHHmDT046jMDUHQWUYYIUDHmbsFYxXUNOoBXoVA1HrMX9dVSybo2gwYPjOUDR4FAT7JP",
    "epiAR4KnXvLmn31lfs2TmXPjulbOzF93NF5EDsiAXAPZM26JhLhC1VPRPEYyhhn2YQpsB06j4ZxwkBRdWZcnB8PQzCOC9BjQ",
    "7mH6-khM6dAjRBM9pJWL8NoiL0xfkNEP1l9_HtKfbMhfRSeYWljlZO20l4vUslbHafhu0CmjOJqE0Divjg9yOWWpbAgg1R0n",
    "eSKIn-LIn9EOnzM4N6vtDyV5pt2nsx8dQ7WQ5xDv568c6ZP8iIOO2p2mYXKP7XsaU4SDOGenRMO2AXP7Pw"]
  | 18 => [
    "bVbdbxPZFX8Gqf_D7VS0W4nE290-5cMS5aOg1Qq0y6rqU3U9c21fMp47O3MdxxIPJBQSoJTuA1sJoW5XO0lcSkMSCDgEwr9g",
    "vyVv_lP2d87MdSakIozvHJ_P3_mdcx2bVFttoilZS03YtmraE1YmDWVnvb_UQhnNeSJ2OokKpdXzatqqBTshQ92IpnwVWZVM",
    "35ALlVDX0sqNb9sq6VZ-N1mT_lwjMe0omPBNaJKpX9lurGY9Gceh9iU5rMio0ZYN5QnfwEuEmDMtZaVoWhtPqG_ben7Wu5bo",
    "eel3xTUDs-5MRVbVJ96Zz8-nfqJjK9LEn_3NiZyrVyNhm0oYPBLRlFFwdvJG3Lhpm-1W7WaiG01787OZSqDnqzN4CD-UaYro",
    "dE5tN0Se9dBIOxXpSFmF1JqCKm0nyKBmgm71F6dnKk3bCumgWw3Ow6O8pyqV9CRAdRQ40VEUeErUTBhMi3O-b5JARw1hDScb",
    "6HpdJSrylagp20FUT9QT2VI16Klk1vvUE55Lb9yUUEdzopmo-jg8pfX7SmhMqiYDG3jV00E74ThNnYpYJdoEMxUbVPFI6CFr",
    "oar6IfTDruAmqwBJ1U3CedV1klphdUtNl8vgKnQUt_Edd5aK9sRMGstoDCLpmyhRMuimFn599KKhTpVB90Mlk8D47RaQmgxN",
    "zo1JcQnh1YJsxaE6y3lI0dGBEvMy0cp2hamLmV9euHr--p-vXRSuFb-Oamk8XX561Rl5HJ9jDQ5V3U6Dfr5KIlTd0eg0gs2S",
    "7pnPz5357BL-Op3OpI4wCHE7lInw2yGYoI6qrvhp6olKVVtBCJs01YCU-npZJsg3EN9EmJsELetS8LSpFKDKs6pQbS0J_wAn",
    "kT7YcnUB2JeNhIjAg1lvTnU7-AbB_KKKEtPID0yoeV-g3YFp1RV4I0PRMPATEb5lhrcwM4gaqFhFzEOTD02g8tlCFwhkiMrt",
    "aqKXKpls6WjyRgpwK7lyFVY2afslqzQknoBSjtgW0SSzXhLJCWurQuWbVqsdFTsh1cgFR5XChbTsp2kSckOzrGQd-Kg0Vr6W",
    "IYQ6z_liOzGxAvF8bBwLgqSXTUeh6rO5mZAwKo8oyKj9tN1oIG1iexHLOzbI1HcpQtotIsLmwC5BaddP5OzR1Mx6EUYmDE0H",
    "6-iyQW5fmRYyutjCyBm0oWUwRmrBD9sp-hp2PVEabBlie32tfNBKJkzur3le2iGQRhS0Jy_1_JVz4k8mCQNxCVypGTPH_CHf",
    "uhUDKRnhL2dO4YkwzFteWsozoa7OqNbRdDAPz1nsTyAjrvpAEx3VPkEPvOUccjjrelFTYKgiz-Pm8hZIEY_8XLXWFa8TVT2x",
    "Is9F4gr6ZIKCMdZgBlOsfF5_ec4gpkxo0LAFTYtrN1FOaatyeJgtDRWZNi02g1WRXkuMrxTxOS386Ai5tmTOTMYQf4Y4gpth",
    "npatwpqfN-G8ohEpcAblsW0CvPF6ThR4f0PSNj_iGIaduEispXmnodUp36NHU4DLL5RodB6fOE9bjBdtA5sBEWRKe5mvQGog",
    "rbe0Tj2iprdUQbsLBkQA4SLxlYrbNVyGqJumG64wVCoGjQn5fPvoUPOKlET9MDVCzksd0qKHX_gjtN24ogTr8stzJj-Fd5HH",
    "QoKOwKAH2N6NsQ14SEGnBu_MpkwZSzEeK0wJrgeEwwUsCE7zR4VOoAwMVX73p8VG-D_3oB333bGOh78D1NKjhZ4Wc5oo7k2A",
    "oQ9NTI38g6HNi4ouIGEfJablPZbi1vGbN8XHt8MV7HnQTvu06nl7fIl1r2Pur7GRAetwM-W_LNJ2DZsElLVNUBBVMue6cA10",
    "MT9hGdX89wb9cMg_cXKxQWO1MBk34w4wBHRolMYlQew7sWhP5-npmKYg56rESk8Mr4h6yCN0bMVPWBPjx1uMRtOPkUDUeJk2",
    "Ehm0-a53OF-HhH9VEKu49oshz8QnXh7c--30eK9i9nzeAFxOUdVphpgvVVEEp5epOAFu-ajLBu661H46LeAGhciwuL--oTm1",
    "bWw7VUTPb1jdAk8qCxMapC0FKfp47GdEXS94x37RUctUcupUkd34kO9MzifGisOSGXw3vD_YG7wcbA5vDRcHbwf9wdYJSTbY",
    "Gbwa7AxvQXYX7_3Be7zRd_uDveHf6BNv-_i3NbwH3ffQ2PlYMnw0-AAP-4OX5GfwbvBu-GDwr-ESSzcH29BYgq8ttvyADDbx",
    "3Xvov-MTRe9Dbw9WHyB9AwuK_gjfLJEEVnucZx6dfL6BpD9cHrwfPhjeKaK_Gt4evC2q-CgfPMnzHkUdLlI2w7_jvAlb2HF-",
    "i4jXh98ttnnP-e2wziI-98aVks47fnOSt3kVwHWfK-kP_sH6b2FJnl4Nb42ytdHqw1G2M8r2R9kmPzdGqyujrDdaXRxld0bZ",
    "9ih7xjqbpEwKvVH2P6efjVbh5AVr5iZwuDzKXo-y3VH2gYUPWQg1yJdG2Y8sf8Ee1vi8zTrbrAM_6yx87ELssNxZrT4YZU_4",
    "_ANb_ZvD9Slt0n_irJ5yrMes85pzXuP0eqXo47pyt_8sVdF3fr5jk21-Xebzs-Irsv2Bc3vtXjP2s8S1POAS-g6r_46yd67M",
    "FTYpW-XIlHAuMHzmTJY5502uKFdec8p9PqxyXRk_77HPhy7VNZbkjdh15scxJLUck8y53ScM6TzuVI7Yovu2x66ecqU_cnW5",
    "5zGGO87wdeGTFH5yiH1w3XnDav2iugLbWyxZoqYU-exyOZts-FNB1Ox5KducWs-pNBI-cb24x4bbTnmdDZeOKj2K9cx15DFb",
    "bfB5gxXWHMHWHSYbbLXroMv48NpFWXPRN46xl3TujrIVRhLyR5zYBis_dxzbdvl8X8L_rktv2fF5jPNzVl53Hp5SLwr29tz4",
    "9DjDjRLHNtj2-5Ikb1OvhPPOkR9SfuzmoucmbtNxr8cZ5nP01FGxz68bYz8H64d_Pbxz8Opg_WDr8Daez3LJ4V2cXhzeH0tu",
    "Q6t3eP9wBe9bR1aHywcvWGcXny9IfrANHXgrSbbgaaU4rx68xHMdEe4f_If9LJJP_H-F_73C80t46B0uHeVzsIvnCj6PJOSH",
    "feWSg-ec1yJyvE32_M1HsVh3x51-Bg"]
  | 19 => [
    "bVbBbhs3EL0L6D8QW7RxAEtK0EstSwoS1wEMBEmQ1GhvBZec3Z2YIjckV_Lm1F57658U6KVof8L5oz5yJXsd90JJ3OHwzXtv",
    "ZnVF_c55HQqhnI1k46rYfTdzvp4_PTk5mV83cWOK9VKKKH1NePpLaaS9KkSk6zhPT0-FaqQP6dmXQetllKUhociYVmrNtl4V",
    "sotOuU1rKNKqcFU15JpKw7VdIBYw_Gl0wsgQxZZ8YGdF2YtSqqvau87qqXLG-YX4uhCNp2pVNDG2i_l8t9vN5pq36-WwYhGs",
    "V0A_hCFeIWtYFYDGm1oEr24PK89tLO5tTZYh7wKKrTtZA-98fv66EOMLd2SV03T57uIMVTkL_EcHXB_kVg4pFhnM_vY91dqp",
    "boPP2c5zpKNHuK11gSPqXQhZBme6SKd7CGNcIsTeAMwGdLOdRtcuZhu2sw8Bdc2HA-vJQMJkfPFDacXkKwSWTvfr9CXtrTWH",
    "yFbFzDvFHZGd_4-2hu3Vff4zE1nkLlbT74tn68luBt3Pt6jyFbKSJf9M5sz3RGMw8oWWhxrvVF_EvsVGNp4KcOx8PdlQlKL1",
    "riUfe7ipXsQl27aL4i64EIdcI5_FhoSmLRnXJgmEq0SKCQ0RDhwO3_d3LopD6pTAmjxpAZuCoWzyHevYrIqnT558U4gLK5Lf",
    "M4WISbcl0T2XkFQftjRXFdJYReFA9JeYEHURBS5leMtHiW0cvhP51qKHGitcMw38iRZPkxdaadfLtKZGqMtXXHrp-5T6zNna",
    "UwgPGoE357Y2HBoRvbTByFTFcyU1bfLB94oz5OSr_aVwTGtkv0jMRN8N1hngz2Cac0OpoBf9hT5i_ZhtIuNDt7fYjmOzjzh6",
    "NFTz6PGpWD7U9uaPz7_f_Hvz182fn3_9_NvNPzd_T-7pbOUG39dvPW-l6sVbZ1j1y7lcS432SP5LmmGUABfZpNp7uNXQO_rY",
    "UYhDMd9-7Fw8HVprsRyPk2F9ODlYjE9Wxsm4gJXJ7x0iQ9YxuiiNaF3bDZSCIDDxkwwNQERnj8UPs7PZQ99P5QZSCYccHokQ",
    "HI7RxdLyJzkiupU-suJWJoMhMbbSrQzXOX0rCXxrI1eMmMR7iqo4PwS2ZHR0J655c13hrSAuLecBHHux4QAs-AEPph5Hrh8B",
    "iIT0dCwat4Nx_XEYNdHQzvMzjLFNyXKUjK5hSD2Qg0FjOk1d6KQxvRjxxrhHoULcFRsZE9RGbkmErq6hVorBtqwqNpyLPhSk",
    "HDLsOd63lQUElAWmDj0XoWfUafFpSWZYv6O2K-GZFHeRUlg9Gc3TfadlGsTAbWW61Au3vX3X72-ASzFI3VGJmgk5G5L6YweZ",
    "wMJetOFtB-wyS5220Ogm141e2kflskuUcRhZpF8SQCD7CHJJCv5PhHqSIRm7T7jYdmObvHZxpFemMPCGjfQDcJnnjpKtLMFr",
    "ZDqAkAq8aolqb4m-tZyNYW-5qvPZp6M5dseXZk_Za5yS4m0wGqUN9npwUCO29NnsDwVKb3L03BT9yttV8fP08vm0bfoAvsxh",
    "VAAxAL_AKzWNsIP7GhkGBlV6oDAf9dGhDEHXitqEK4-BTLwsXReHGkMYLAiF6hz_pLj_jwa_Y-O6ALtkslpy-HeDmnK5QaQ2",
    "mYmXzmcdVcNGw4CDj_4D"]
  | 20 => [
    "bVVLbxs3EL4H6H9gF3BrA5XlIkBR2CsBReJe20MCtKeCWs5q2XDJDcmVolveyaFoj-0xQA8BjBZNggRwXu6hf2B1k_9NP3JX",
    "siz7suJyh8P5HjPaunq4dfVa32VWVn7r6mGys3OQclZYygdJ4X213-9Pp9PdVMnh5r6Tnn7SvKSEZUZ70n6QeLrje4IyY7mX",
    "Ru9ro8n5maJBIqSrFJ_ts7CXluSRDol6dLuWk0HyQ0_TlF3nnrZ3dsfkb8gSK-ZnFc7Kko-pf6cncVGS9l3F9TANT5Yp7twg",
    "UVyPa8QMkp_5hLdwplILM91VJou17IbiVxjOwvZ7veEnV9L2pbvPL-M-X-OgMNZntWexiC5N2hdyEo7jZ1nLMpWz2YqrhFlS",
    "gyRS4QoinzDfnj1_c58P2SbPjCtlpjcs10BsSWezwNbNb3rXTFkB2ki1CuCGCNQVsmIj8lMifSXttF2DmOKStB8E7ddq2FaB",
    "wk0mQb5gU-kL5gtilTVjy8tS6jFb8hvPbtR3lk_JJQe5sSXjWSjnLC5wtGGGjm64JmHBSoPkdpJ6DkioQ_hikHy5t7eVsBHP",
    "bo2tqbXoVQbGC97CrrGC7CDZS5bRLcsbSn01TAPQdQszdtGBmXMJK0lIjhSZBXtBNVeB0cAxA6bIS9KZhFeVkq23oG8HbK3Q",
    "wpfqgGUFt478oPZ57-uk1dKf0_KcKTo-oNaF-oaXGR_QM1IKWxl0Cu_DgzPRV5o7g3ToKMcyVACVAUQYvGrjmaaMnONWqtm3",
    "wFgaS0zqIGEEx32EPaKx1DqYweQs_fT6d9du_Pj9IQsoh2l4ApCXWa24VTOcj4daPIUUIrDZKrzWehMjxfbezkFCeU5wy4Qw",
    "Lly4IBzmtTcZPK7I45jJ84SNEWCBYBYM7yTUJzFMpa7qVetGL0WyNozvC-gyLkzd4pkaqwTSl0azUjrky6iKeLtewHLVDMte",
    "7X5it4vaBjYK6ZiSeaT3Cwy-1jIifPImnL1khDEIKDU8xl2I03U5IitkpUygPGOrVoZHwAZm6xreaIylrZLOV5dwQHd44M6F",
    "m1QtKNQCXmQ5PjeaZKubrFrErXCBIAxuNKJ0RYnRjirOo2_t9xmuONAjVx2crYBaQDGLwQGWYy4LB3tiQkJmG7LlFsRze6t1",
    "4pm3MBc8hxDL-RW-hj8XK0d1JKTjFHs5ms-vx2EE0DljIHbK4SZNS0fl0jofNZ1wOwvUCxqj013BJ8RcRcG-PhbF_bYwWR2w",
    "h7-jQ0VhucYVDrdcGStRfTSloAkpU5G4RKLhmjj9OGv6wysS_5sWgXpM4HoW_Rb7L1PGBTTRCSSiIxVsI1hlFOYf2jjUCBfX",
    "SjATOJ5KRxXZimC-2IYdV3G-bFzevrl6VMrV5M15KZWEX-BgKVp8HaDwkmGoQQdyoSVrlL3-BxEEMSWc2x0IXC1N0PqqVSC_",
    "ZL7go8MptDUzWYaOgIAVJng9rv87cmz7sLagtN5p_mzeze82L-a_Nx_n9-a_NO-wfnBxr3nWnGB9rzlu3uL5rjlp3jYfEHO_",
    "eYPYY0S8x94rrD7OHyL2bvz6GO_HyPdvyIev75s3zUfs_IbnG8S_nD_C8zWiPuD3wlnE_XHJ3jPceQ85HzQvkfEY1RzHirCe",
    "PwnfUNWrS_P92tYbKsbqJFZ-jPtP4pkXce8JajtZPD99ePpocXT6dPF88dfin9Onp4_DHt5eL44WL7F-gPVRu3d6v91b_B32",
    "_gc"]
  | 21 => [
    "ZVLPaxNBFL4H_B-m68HkkAbxIuluQKyCJ4vUg3jabGazY3dnlt3ZxCKCbZQiIniwVkqxrZlobO0PCmoKUv-VCUjF_8KZN7sl",
    "rZfZN9_73ve-92YDHoUzyAvcJMXcuT9_u3rdQiqcJxFmGS_7GfU4YbRcaZE0Dt3FOqEhobjaDJm3MGMTGmcc8cUYO1aaNSPC",
    "LbghB13h-DGvPXI7buolxCZRG6WJ51gB53G9Vut2u9MWmrx1r02zpF1LA5ZwT6kSj1ELBQn2HctCbsaZx6I4xFz1Yr5vIbvm",
    "Nuxai3QatjqQF7pp6hgwJI2SHZIcs7w0tXKX4Aruts-SCLkw35mtImna5qCaeAElOHQsN-Q4oS7HFrpUsvVgMZ8URox6IfEW",
    "HKsYPOb1MsVdNKuKKtNts9py5WmASTvgjnXVQl3S4gFEc5ipAa-k6B6Os6YSQsxHyHbP29HL0t2qLeyxxNX-6xlt4YQHGDVx",
    "m1BKaFuXasBsqHT-g1PuKv00iDDl55kXzssdgruxepInEaFV47p-Nvrki7JYO2nY5os6bphhh_kcU7U7HycJbiHOkJuiglqa",
    "5NpTs3dvzj-Yu4UC9VOq3FS1-vAONftWJDdEN0iinajc_xuBd78Iy9GWHB3J0Rd9Hj-XozU5-jjuDca9N-Pe1ri3Nu71x731",
    "ce_96V7_7-7b36O903crqPzneEndKlIMpfglxaEcvJbikxysSPFdim0pTqR4CdkjOXgFyCpwfgBHQHwoxQYwhzqrA6XzTIqR",
    "FMtSfIXzM-gLDeqSAdB2oOSkAL9BVaGQl5vUKiB9AFV2X4q1vLUuWQfxTUC2wOeyVtPgBoAfCnsvdK12fghZ08sw9-AcAn-o",
    "9XVqG8ADiJeK2Q-KFquQVQ6XQLDYTD7aMeBLYE-Az51iXWc7GWrbWsSkdvSMZgk5E0xqw5sT5WY_y-B5EjSxgP2c6CfLy41b",
    "xdmV4mfBMSKT726q-kXhfrFV1X37Hw"]
  | 22 => [
    "fVTNbtNAED6Tp1j2QB3RxK16oYntQ5tKgPgTBAHHjb2xl653rd11nQghlR44IfU9OAUQtBI0B3gB540Y2ykxxuKQ9c7u7Mx8",
    "33yTgGpfscQwKTDypTBUGBcH0k9j2PW59Elx10-UNP2QmiNOiwt9MB-T8BGJqeXcHD0-HL96coQiE3Ov4xQf5MTUEORHRGkK",
    "AVMz7d3B3iBVvJYmMiYZ2Hbf1xojRbmLtZlzqiNKTbVFZp5QFxs6M3bh5TVsFCk6dXG215cqtHf39_ftWZEfo1nMa76vyQmp",
    "gGIElUUycDGgwYj4BTwXcyaO_ykBIRf9oWIDvorLYhJSe9ZjfkGd7fmU84QEAROhi3cAJdg6qbA1q3Zs4jk2Z55T_MgaBUYZ",
    "C0zk4l3ARVkYmWKLNw5rvrIs65dVQqOYTjiZD4QUdIg9wg1Vghh6nZIkCWc9236xd2jbo_EIvbw7fvgA7fZ3UFke8evlQvnr",
    "dxELAgqwTghPwYRyb4mJToYOPBFIySK37jhMJKlpPOFEhClQ4-L7QPqzNeltPOqDOlObUhpkxTRgBA6K461GN7cyZiJkIoro",
    "zKeljJGcNiOs-1ojtca0u3WbCl8G9PnTe4cyToBJYSxnI4gaqZ2JDObbyKhtVEKHLSQppS5gFlys5EQaXUr8WmaJ1DWdwXy0",
    "dLN1AEAlATvx1issyOdE6w2_NVF7RDHSq1oAyFVKsffzwqm4b84Bd3eGb7tWd9ixpqkoC7O6bybEPw6VTEXQK6U9QDCsVqtQ",
    "oxs3_rYrJMRIBUgblXioDXErCmTLsoVAUrWp9NdKg6ta01HXEjRDI2hXt5DamMFfVDeRyqRh-uujRlYg0YEimvFuvlyd5l_y",
    "RX6VX-YX-WL1Hr6X-ed8CdYPWL_BzXL1bnW2-gDWJ_BewM0SPMo3q3M4-QoRLkuf0_9FgNMiwnmZ5wxefYeYV_niNw"]
  | 23 => [
    "dVJNT8MwDL3zK0wuG4c2THBA0CKxbhJIMCZUBJxQaL01kKYlcdn273HXIZWvY-z3nt9zHO1PbpP0aT6FgkoD8_vx9VUCwlKQ",
    "bmoUkFWW0FIsCNckoxJJMZLqAN8b_RGLpO07Zb0mXVllpJzOBIgWchptJdelsT7uKlKuVqtAyoejRMpJOoHHy_TmGkbhIaT8",
    "lOuWMQromyBTwtVRWLmlTO92EFkjxDDYmnpVH8pnTtc0OOsMWlViLHLsqixTK8chZlWOobYeHY1xUTmMtK0bAuKkbFDnOVrB",
    "5FcvdrVv-sO8ypqSdQ5ChyrfDBeNzUh3Q34RdKmW_f3t8t9fBElV1or0i-m1OdMZZIVyHiluaBGcCJDne0bbN3BoYuGLylHG",
    "ZjVTol6dNgZ9gUgCItl5Od-L-qZi-DIeZmyccGqQX5ECUm7J88Tzi1H2TUDhcNFDc6-Dkh_3N9WGFN2SVdiWfn3Fn2stsfg7",
    "Zk65YM8_r6V_J9szOQ4PR5Bu7WxStZyx4nCw-_mDf2Z-Ag"]
  | 24 => [
    "dVDLahsxFN37K4Q29saeBLIoycws8oAG2q7mB8SMYk-R5elIjjO72Js2tKWr0E1pNzI1KSFuiPGU0vEvaP5An1LNzTg1FCMQ",
    "955zzzlXckWYxolEMkuohyW9kM5rck4ERkJmzEJRLBJGsn0-4PQA-9EgHPYpl50ulSeMVuVhdhq1vCciTCmRtOZazUfn5j9n",
    "yGvGPBlupmLESb-K2zAWh1lAuq8s3hI8DgnDqJfSMw_3pEz2HWc0GnWOHOc4OEbPg5cv0F5nZxcFKeEili6sv_msUAjsNxpb",
    "iHjACetEMrIzbk_2GbroMy68KqpN3wzjcw8fDbi0a7UDq41i3vXwDkYhZUwkJKz7SnqAwh5JBZXeUJ61n2Hk-I0t3-m6LPZd",
    "8v-7tnybrx_0ovxUTvRC_y4_6D-6KMe2y8uxLmw90feWnwB2r3N7VuWlZXK9tH2hH2pmrn9ah6VFVnputU8-Rt2Y6dio3Ew_",
    "GqWMWhl1bVSxvidGfQZqbqZvqzF1ZdQMkF9m-h4GZkAtQPsdVDOYvIX6R-1ZSXKowbNKHFe2NbUESkF7BVtdAmsdrPm3tf8X",
    "GP4K-A0EPe45r5esxmz7DrKu16AV3oF58Rc"]
  | _ => []

/-- The words of each length, unpacked when they are needed first. -/
def lexicon : Array (Thunk (Array UInt8)) :=
  ((List.range 25).map fun length => Thunk.mk fun _ =>
    match Base64Url.decode (String.join (packedWords length)).toList with
    | some bs => (Deflate.unpack 16384 bs).1.toArray
    | none => #[]).toArray

/-- The powers of two that say how many words of a length there are. -/
def wordBits : List Nat := [0, 0, 0, 0, 10, 10, 11, 11, 10, 10, 10, 10, 10, 9, 9, 8, 7, 7, 8, 7, 7, 6, 6, 5, 5]

/-- A word by its length and its place among the words of that length. -/
def word (length place : Nat) : List UInt8 :=
  match lexicon[length]? with
  | some words => (words.get.extract (length * place) (length * (place + 1))).toList
  | none => []

end Bearer.Packed.Brotli
