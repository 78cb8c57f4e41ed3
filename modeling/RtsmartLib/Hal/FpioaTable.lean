import Mathlib.Data.List.Basic

/-!
This module contains the functions that a pin can have, the default configuration of each, and the table
of the functions that each pin selects from.
-/

namespace Fpioa

inductive FpioaFunc where
  | gpio0 | gpio1 | gpio2 | gpio3 | gpio4 | gpio5 | gpio6 | gpio7 | gpio8 | gpio9 | gpio10
  | gpio11 | gpio12 | gpio13 | gpio14 | gpio15 | gpio16 | gpio17 | gpio18 | gpio19 | gpio20
  | gpio21 | gpio22 | gpio23 | gpio24 | gpio25 | gpio26 | gpio27 | gpio28 | gpio29 | gpio30
  | gpio31 | gpio32 | gpio33 | gpio34 | gpio35 | gpio36 | gpio37 | gpio38 | gpio39 | gpio40
  | gpio41 | gpio42 | gpio43 | gpio44 | gpio45 | gpio46 | gpio47 | gpio48 | gpio49 | gpio50
  | gpio51 | gpio52 | gpio53 | gpio54 | gpio55 | gpio56 | gpio57 | gpio58 | gpio59 | gpio60
  | gpio61 | gpio62 | gpio63 | gpio64 | gpio65 | gpio66 | gpio67 | gpio68 | gpio69 | gpio70
  | gpio71 | boot0 | boot1 | ci0 | ci1 | ci2 | ci3 | co0 | co1 | co2 | co3 | di0 | di1 | di2 | di3
  | do0 | do1 | do2 | do3 | hsync0 | hsync1 | iic0Scl | iic0Sda | iic1Scl | iic1Sda | iic2Scl
  | iic2Sda | iic3Scl | iic3Sda | iic4Scl | iic4Sda | iisClk | iisDIn0PdmIn3 | iisDIn1PdmIn2
  | iisDOut0PdmIn1 | iisDOut1PdmIn0 | iisWs | jtagRst | jtagTck | jtagTdi | jtagTdo | jtagTms
  | mClk1 | mClk2 | mClk3 | mmc1Clk | mmc1Cmd | mmc1D0 | mmc1D1 | mmc1D2 | mmc1D3 | ospiClk
  | ospiCs | ospiD0 | ospiD1 | ospiD2 | ospiD3 | ospiD4 | ospiD5 | ospiD6 | ospiD7 | ospiDqs
  | pdmIn0 | pdmIn1 | pdmIn2 | pdmIn3 | pulseCntr0 | pulseCntr1 | pulseCntr2 | pulseCntr3
  | pulseCntr4 | pulseCntr5 | pwm0 | pwm1 | pwm2 | pwm3 | pwm4 | pwm5 | qspi0Clk | qspi0Cs0
  | qspi0Cs1 | qspi0Cs2 | qspi0Cs3 | qspi0Cs4 | qspi0D0 | qspi0D1 | qspi0D2 | qspi0D3 | qspi1Clk
  | qspi1Cs0 | qspi1Cs1 | qspi1Cs2 | qspi1Cs3 | qspi1Cs4 | qspi1D0 | qspi1D1 | qspi1D2 | qspi1D3
  | spi2axiCk | spi2axiCs | spi2axiDi | spi2axiDo | uart0Rxd | uart0Txd | uart1Cts | uart1Rts
  | uart1Rxd | uart1Txd | uart2Cts | uart2Rts | uart2Rxd | uart2Txd | uart3Cts | uart3De | uart3Re
  | uart3Rts | uart3Rxd | uart3Txd | uart4Rxd | uart4Txd | pdmClk | vsync0 | vsync1 | ctrlIn3d
  | ctrlO13d | ctrlO23d | pmuInt0 | pmuInt1 | pmuInt2 | pmuInt3 | pmuInt4 | pmuInt5 | pmuOut0
  | pmuOut1 | testPin0 | testPin1 | testPin2 | testPin3 | testPin4 | testPin5 | testPin6
  | testPin7 | testPin8 | testPin9 | testPin10 | testPin11 | testPin12 | testPin13 | testPin14
  | testPin15 | testPin16 | testPin17 | testPin18 | testPin19 | testPin20 | testPin21 | testPin22
  | testPin23 | testPin24 | testPin25 | testPin26 | testPin27 | testPin28 | testPin29 | testPin30
  | testPin31 | funcMax

/-
The number of the enumerator, with which the driver compares and orders functions.
-/
def FpioaFunc.code (func : FpioaFunc) : Nat := func.ctorIdx

structure FpioaFuncCfg where
  func : FpioaFunc
  cfg : BitVec 32

def gFuncDescribArray : List FpioaFuncCfg := [
  ⟨.boot0, 0x10f#32⟩, ⟨.boot1, 0x10f#32⟩, ⟨.ci0, 0x10f#32⟩, ⟨.ci1, 0x10f#32⟩, ⟨.ci2, 0x10f#32⟩,
  ⟨.ci3, 0x10f#32⟩, ⟨.co0, 0x8e#32⟩, ⟨.co1, 0x8e#32⟩, ⟨.co2, 0x8e#32⟩, ⟨.co3, 0x8e#32⟩,
  ⟨.di0, 0x10f#32⟩, ⟨.di1, 0x10f#32⟩, ⟨.di2, 0x10f#32⟩, ⟨.di3, 0x10f#32⟩, ⟨.do0, 0x8e#32⟩,
  ⟨.do1, 0x8e#32⟩, ⟨.do2, 0x8e#32⟩, ⟨.do3, 0x8e#32⟩, ⟨.hsync0, 0x8e#32⟩, ⟨.hsync1, 0x8e#32⟩,
  ⟨.iic0Scl, 0x18f#32⟩, ⟨.iic0Sda, 0x18f#32⟩, ⟨.iic1Scl, 0x18f#32⟩, ⟨.iic1Sda, 0x18f#32⟩,
  ⟨.iic2Scl, 0x18f#32⟩, ⟨.iic2Sda, 0x18f#32⟩, ⟨.iic3Scl, 0x18f#32⟩, ⟨.iic3Sda, 0x18f#32⟩,
  ⟨.iic4Scl, 0x18f#32⟩, ⟨.iic4Sda, 0x18f#32⟩, ⟨.iisClk, 0x8e#32⟩, ⟨.iisDIn0PdmIn3, 0x10f#32⟩,
  ⟨.iisDIn1PdmIn2, 0x10f#32⟩, ⟨.iisDOut0PdmIn1, 0x8e#32⟩, ⟨.iisDOut1PdmIn0, 0x8e#32⟩,
  ⟨.iisWs, 0x8e#32⟩, ⟨.jtagRst, 0x14f#32⟩, ⟨.jtagTck, 0x12f#32⟩, ⟨.jtagTdi, 0x12f#32⟩,
  ⟨.jtagTdo, 0x8e#32⟩, ⟨.jtagTms, 0x12f#32⟩, ⟨.mClk1, 0x8e#32⟩, ⟨.mClk2, 0x8e#32⟩,
  ⟨.mClk3, 0x8e#32⟩, ⟨.mmc1Clk, 0x8e#32⟩, ⟨.mmc1Cmd, 0x1cf#32⟩, ⟨.mmc1D0, 0x1cf#32⟩,
  ⟨.mmc1D1, 0x1cf#32⟩, ⟨.mmc1D2, 0x1cf#32⟩, ⟨.mmc1D3, 0x1cf#32⟩, ⟨.ospiClk, 0x8e#32⟩,
  ⟨.ospiCs, 0xce#32⟩, ⟨.ospiD0, 0x18f#32⟩, ⟨.ospiD1, 0x18f#32⟩, ⟨.ospiD2, 0x18f#32⟩,
  ⟨.ospiD3, 0x18f#32⟩, ⟨.ospiD4, 0x18f#32⟩, ⟨.ospiD5, 0x18f#32⟩, ⟨.ospiD6, 0x18f#32⟩,
  ⟨.ospiD7, 0x18f#32⟩, ⟨.ospiDqs, 0x10f#32⟩, ⟨.pdmIn0, 0x10f#32⟩, ⟨.pdmIn1, 0x10f#32⟩,
  ⟨.pdmIn2, 0x10f#32⟩, ⟨.pdmIn3, 0x10f#32⟩, ⟨.pulseCntr0, 0x10f#32⟩, ⟨.pulseCntr1, 0x10f#32⟩,
  ⟨.pulseCntr2, 0x10f#32⟩, ⟨.pulseCntr3, 0x10f#32⟩, ⟨.pulseCntr4, 0x10f#32⟩,
  ⟨.pulseCntr5, 0x10f#32⟩, ⟨.pwm0, 0x8e#32⟩, ⟨.pwm1, 0x8e#32⟩, ⟨.pwm2, 0x8e#32⟩,
  ⟨.pwm3, 0x8e#32⟩, ⟨.pwm4, 0x8e#32⟩, ⟨.pwm5, 0x8e#32⟩, ⟨.qspi0Clk, 0x8e#32⟩,
  ⟨.qspi0Cs0, 0xce#32⟩, ⟨.qspi0Cs1, 0xce#32⟩, ⟨.qspi0Cs2, 0xce#32⟩, ⟨.qspi0Cs3, 0xce#32⟩,
  ⟨.qspi0Cs4, 0xce#32⟩, ⟨.qspi0D0, 0x18f#32⟩, ⟨.qspi0D1, 0x18f#32⟩, ⟨.qspi0D2, 0x18f#32⟩,
  ⟨.qspi0D3, 0x18f#32⟩, ⟨.qspi1Clk, 0x8e#32⟩, ⟨.qspi1Cs0, 0xce#32⟩, ⟨.qspi1Cs1, 0xce#32⟩,
  ⟨.qspi1Cs2, 0xce#32⟩, ⟨.qspi1Cs3, 0xce#32⟩, ⟨.qspi1Cs4, 0xce#32⟩, ⟨.qspi1D0, 0x18f#32⟩,
  ⟨.qspi1D1, 0x18f#32⟩, ⟨.qspi1D2, 0x18f#32⟩, ⟨.qspi1D3, 0x18f#32⟩, ⟨.spi2axiCk, 0x10f#32⟩,
  ⟨.spi2axiCs, 0x14f#32⟩, ⟨.spi2axiDi, 0x10f#32⟩, ⟨.spi2axiDo, 0x8e#32⟩, ⟨.uart0Rxd, 0x10f#32⟩,
  ⟨.uart0Txd, 0x8e#32⟩, ⟨.uart1Cts, 0x10f#32⟩, ⟨.uart1Rts, 0x8e#32⟩, ⟨.uart1Rxd, 0x10f#32⟩,
  ⟨.uart1Txd, 0x8e#32⟩, ⟨.uart2Cts, 0x10f#32⟩, ⟨.uart2Rts, 0x8e#32⟩, ⟨.uart2Rxd, 0x10f#32⟩,
  ⟨.uart2Txd, 0x8e#32⟩, ⟨.uart3Cts, 0x10f#32⟩, ⟨.uart3De, 0x8e#32⟩, ⟨.uart3Re, 0x8e#32⟩,
  ⟨.uart3Rts, 0x8e#32⟩, ⟨.uart3Rxd, 0x10f#32⟩, ⟨.uart3Txd, 0x8e#32⟩, ⟨.uart4Rxd, 0x10f#32⟩,
  ⟨.uart4Txd, 0x8e#32⟩, ⟨.pdmClk, 0x8e#32⟩, ⟨.vsync0, 0x8e#32⟩, ⟨.vsync1, 0x8e#32⟩,
  ⟨.ctrlIn3d, 0x10f#32⟩, ⟨.ctrlO13d, 0x8e#32⟩, ⟨.ctrlO23d, 0x8e#32⟩, ⟨.pmuInt0, 0x1126#32⟩,
  ⟨.pmuInt1, 0x1126#32⟩, ⟨.pmuInt2, 0x1126#32⟩, ⟨.pmuInt3, 0x1126#32⟩, ⟨.pmuInt4, 0x1126#32⟩,
  ⟨.pmuInt5, 0x1126#32⟩, ⟨.pmuOut0, 0x1086#32⟩, ⟨.pmuOut1, 0x1086#32⟩
]

def gPinFuncArray : List (List FpioaFunc) := [
  [.gpio0, .boot0, .testPin0, .funcMax, .funcMax],
  [.gpio1, .boot1, .testPin1, .funcMax, .funcMax],
  [.gpio2, .jtagTck, .pulseCntr0, .testPin2, .funcMax],
  [.gpio3, .jtagTdi, .pulseCntr1, .uart1Txd, .testPin0],
  [.gpio4, .jtagTdo, .pulseCntr2, .uart1Rxd, .testPin1],
  [.gpio5, .jtagTms, .pulseCntr3, .uart2Txd, .testPin2],
  [.gpio6, .jtagRst, .pulseCntr4, .uart2Rxd, .testPin3],
  [.gpio7, .pwm2, .iic4Scl, .testPin3, .di0],
  [.gpio8, .pwm3, .iic4Sda, .testPin4, .di1],
  [.gpio9, .pwm4, .uart1Txd, .iic1Scl, .di2],
  [.gpio10, .ctrlIn3d, .uart1Rxd, .iic1Sda, .di3],
  [.gpio11, .ctrlO13d, .uart2Txd, .iic2Scl, .do0],
  [.gpio12, .ctrlO23d, .uart2Rxd, .iic2Sda, .do1],
  [.gpio13, .mClk1, .do2, .funcMax, .funcMax],
  [.gpio14, .ospiCs, .testPin5, .qspi0Cs0, .do3],
  [.gpio15, .ospiClk, .testPin6, .qspi0Clk, .co3],
  [.gpio16, .ospiD0, .qspi1Cs4, .qspi0D0, .co2],
  [.gpio17, .ospiD1, .qspi1Cs3, .qspi0D1, .co1],
  [.gpio18, .ospiD2, .qspi1Cs2, .qspi0D2, .co0],
  [.gpio19, .ospiD3, .qspi1Cs1, .qspi0D3, .testPin4],
  [.gpio20, .ospiD4, .qspi1Cs0, .pulseCntr0, .testPin5],
  [.gpio21, .ospiD5, .qspi1Clk, .pulseCntr1, .testPin6],
  [.gpio22, .ospiD6, .qspi1D0, .pulseCntr2, .testPin7],
  [.gpio23, .ospiD7, .qspi1D1, .pulseCntr3, .testPin8],
  [.gpio24, .ospiDqs, .qspi1D2, .pulseCntr4, .testPin9],
  [.gpio25, .pwm5, .qspi1D3, .pulseCntr5, .testPin10],
  [.gpio26, .mmc1Clk, .testPin7, .pdmClk, .funcMax],
  [.gpio27, .mmc1Cmd, .pulseCntr5, .pdmIn0, .ci0],
  [.gpio28, .mmc1D0, .uart3Txd, .pdmIn1, .ci1],
  [.gpio29, .mmc1D1, .uart3Rxd, .ctrlIn3d, .ci2],
  [.gpio30, .mmc1D2, .uart3Rts, .ctrlO13d, .ci3],
  [.gpio31, .mmc1D3, .uart3Cts, .ctrlO23d, .testPin11],
  [.gpio32, .iic0Scl, .iisClk, .uart3Txd, .testPin12],
  [.gpio33, .iic0Sda, .iisWs, .uart3Rxd, .testPin13],
  [.gpio34, .iic1Scl, .iisDIn0PdmIn3, .uart3Rts, .funcMax],
  [.gpio35, .iic1Sda, .iisDOut0PdmIn1, .uart3Cts, .funcMax],
  [.gpio36, .iic3Scl, .iisDIn1PdmIn2, .uart4Txd, .funcMax],
  [.gpio37, .iic3Sda, .iisDOut1PdmIn0, .uart4Rxd, .funcMax],
  [.gpio38, .uart0Txd, .testPin8, .qspi1Cs0, .hsync0],
  [.gpio39, .uart0Rxd, .testPin9, .qspi1Clk, .vsync0],
  [.gpio40, .uart1Txd, .iic1Scl, .qspi1D0, .testPin18],
  [.gpio41, .uart1Rxd, .iic1Sda, .qspi1D1, .testPin19],
  [.gpio42, .uart1Rts, .pwm0, .qspi1D2, .testPin20],
  [.gpio43, .uart1Cts, .pwm1, .qspi1D3, .testPin21],
  [.gpio44, .uart2Txd, .iic3Scl, .testPin10, .spi2axiCk],
  [.gpio45, .uart2Rxd, .iic3Sda, .testPin11, .spi2axiCs],
  [.gpio46, .uart2Rts, .pwm2, .iic4Scl, .testPin22],
  [.gpio47, .uart2Cts, .pwm3, .iic4Sda, .testPin23],
  [.gpio48, .uart4Txd, .testPin12, .iic0Scl, .spi2axiDi],
  [.gpio49, .uart4Rxd, .testPin13, .iic0Sda, .spi2axiDo],
  [.gpio50, .uart3Txd, .iic2Scl, .qspi0Cs4, .testPin24],
  [.gpio51, .uart3Rxd, .iic2Sda, .qspi0Cs3, .testPin25],
  [.gpio52, .uart3Rts, .pwm4, .iic3Scl, .testPin26],
  [.gpio53, .uart3Cts, .pwm5, .iic3Sda, .funcMax],
  [.gpio54, .qspi0Cs0, .mmc1Cmd, .pwm0, .testPin27],
  [.gpio55, .qspi0Clk, .mmc1Clk, .pwm1, .testPin28],
  [.gpio56, .qspi0D0, .mmc1D0, .pwm2, .testPin29],
  [.gpio57, .qspi0D1, .mmc1D1, .pwm3, .testPin30],
  [.gpio58, .qspi0D2, .mmc1D2, .pwm4, .testPin31],
  [.gpio59, .qspi0D3, .mmc1D3, .pwm5, .funcMax],
  [.gpio60, .pwm0, .iic0Scl, .qspi0Cs2, .hsync1],
  [.gpio61, .pwm1, .iic0Sda, .qspi0Cs1, .vsync1],
  [.gpio62, .mClk2, .uart3De, .testPin14, .funcMax],
  [.gpio63, .mClk3, .uart3Re, .testPin15, .funcMax],
  [.funcMax, .gpio64, .pmuInt0, .funcMax, .funcMax],
  [.funcMax, .gpio65, .pmuInt1, .funcMax, .funcMax],
  [.funcMax, .gpio66, .pmuInt2, .funcMax, .funcMax],
  [.funcMax, .gpio67, .pmuInt3, .funcMax, .funcMax],
  [.funcMax, .gpio68, .pmuInt4, .funcMax, .funcMax],
  [.funcMax, .gpio69, .pmuInt5, .funcMax, .funcMax],
  [.funcMax, .gpio70, .pmuOut0, .funcMax, .funcMax],
  [.funcMax, .gpio71, .pmuOut1, .funcMax, .funcMax]
]

end Fpioa
