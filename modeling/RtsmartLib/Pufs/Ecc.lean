import RtsmartLib.Pufs.Device

/-!
This module contains the part of the driver interface that elliptic curve operations use: curves, key
slots and public keys.
-/

namespace Pufs

open Lib

inductive EccType where
  | nistb163
  | nistb233
  | nistb283
  | nistb409
  | nistb571
  | nistk163
  | nistk233
  | nistk283
  | nistk409
  | nistk571
  | nistp192
  | nistp224
  | nistp256
  | nistp384
  | nistp521
  | sm2
deriving DecidableEq

/-
In the order of the enumeration, which numbers them from 0.
-/
inductive KeySlot where
  | sk128_0
  | sk128_1
  | sk128_2
  | sk128_3
  | sk128_4
  | sk128_5
  | sk128_6
  | sk128_7
  | sk256_0
  | sk256_1
  | sk256_2
  | sk256_3
  | sk512_0
  | sk512_1
  | prk0
  | prk1
  | prk2
  | sharesec0
deriving DecidableEq

/-
Of the coordinate buffers only the bytes that are in use are kept.
-/
structure EccPuk where
  qlen : Nat
  x : List Byte
  y : List Byte
deriving DecidableEq

end Pufs
