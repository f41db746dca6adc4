/-!
# Variants of characters in names

Names of hosts are compared by their characters, so of all that are taken for the same one only one
is written: the small letter, the ordinary width, the plain shape. Others have no place in a name at
all, and a few are left out of it without a trace.
-/

namespace MachiningViewer.Http.Domain

/-- The characters that stand for one other. To each run belong its first code point and what is
written for the ones from there on; U+FFFD stands for what is no variant. -/
def plainRuns : List (Nat × String) := [
  (0x41, "abcdefghijklmnopqrstuvwxyz"),
  (0xA0, " "),
  (0xAA, "a"),
  (0xB2, "23�μ���1o"),
  (0xC0, "àáâãäåæçèéêëìíîïðñòóôõö�øùúûüýþ"),
  (0x100, "ā�ă�ą�ć�ĉ�ċ�č�ď�đ�ē�ĕ�ė�ę�ě�ĝ�ğ�ġ�ģ�ĥ�ħ�ĩ�ī�ĭ�į"),
  (0x134, "ĵ�ķ��ĺ�ļ�ľ���ł�ń�ņ�ň��ŋ�ō�ŏ�ő�œ�ŕ�ŗ�ř�ś�ŝ�ş�š�ţ�ť�ŧ�ũ�ū�ŭ�ů�ű�ų�ŵ�ŷ�ÿź�ż�ž�s�ɓƃ�ƅ�ɔ" ++
    "ƈ�ɖɗƌ��ǝəɛƒ�ɠɣ�ɩɨƙ���ɯɲ�ɵơ�ƣ�ƥ�ʀƨ�ʃ��ƭ�ʈư�ʊʋƴ�ƶ�ʒƹ���ƽ"),
  (0x1CD, "ǎ�ǐ�ǒ�ǔ�ǖ�ǘ�ǚ�ǜ��ǟ�ǡ�ǣ�ǥ�ǧ�ǩ�ǫ�ǭ�ǯ"),
  (0x1F4, "ǵ�ƕƿǹ�ǻ�ǽ�ǿ�ȁ�ȃ�ȅ�ȇ�ȉ�ȋ�ȍ�ȏ�ȑ�ȓ�ȕ�ȗ�ș�ț�ȝ�ȟ�ƞ�ȣ�ȥ�ȧ�ȩ�ȫ�ȭ�ȯ�ȱ�ȳ"),
  (0x23A, "ⱥȼ�ƚⱦ��ɂ�ƀʉʌɇ�ɉ�ɋ�ɍ�ɏ"),
  (0x2B0, "hɦjrɹɻʁwy"),
  (0x2E0, "ɣlsxʕ"),
  (0x340, "\u0300\u0301�\u0313�ι"),
  (0x370, "ͱ�ͳ�ʹ�ͷ"),
  (0x37E, ";ϳ"),
  (0x386, "ά·έήί�ό�ύώ�αβγδεζηθικλμνξοπρ�στυφχψωϊϋ"),
  (0x3CF, "ϗβθυύϋφπ�ϙ�ϛ�ϝ�ϟ�ϡ�ϣ�ϥ�ϧ�ϩ�ϫ�ϭ�ϯ�κρσ�θε�ϸ�σϻ��ͻͼͽѐёђѓєѕіїјљњћќѝўџабвгдежзийклмнопрс" ++
    "туфхцчшщъыьэюя"),
  (0x460, "ѡ�ѣ�ѥ�ѧ�ѩ�ѫ�ѭ�ѯ�ѱ�ѳ�ѵ�ѷ�ѹ�ѻ�ѽ�ѿ�ҁ"),
  (0x48A, "ҋ�ҍ�ҏ�ґ�ғ�ҕ�җ�ҙ�қ�ҝ�ҟ�ҡ�ң�ҥ�ҧ�ҩ�ҫ�ҭ�ү�ұ�ҳ�ҵ�ҷ�ҹ�һ�ҽ�ҿ�ӏӂ�ӄ�ӆ�ӈ�ӊ�ӌ�ӎ��ӑ�ӓ�ӕ�ӗ�ә�ӛ�ӝ" ++
    "�ӟ�ӡ�ӣ�ӥ�ӧ�ө�ӫ�ӭ�ӯ�ӱ�ӳ�ӵ�ӷ�ӹ�ӻ�ӽ�ӿ�ԁ�ԃ�ԅ�ԇ�ԉ�ԋ�ԍ�ԏ�ԑ�ԓ�ԕ�ԗ�ԙ�ԛ�ԝ�ԟ�ԡ�ԣ�ԥ�ԧ�ԩ�ԫ�ԭ�ԯ�" ++
    "�աբգդեզէըթժիլխծկհձղճմյնշոչպջռսվտրցւփքօֆ"),
  (0xF0C, "་"),
  (0x10A0, "ⴀⴁⴂⴃⴄⴅⴆⴇⴈⴉⴊⴋⴌⴍⴎⴏⴐⴑⴒⴓⴔⴕⴖⴗⴘⴙⴚⴛⴜⴝⴞⴟⴠⴡⴢⴣⴤⴥ�ⴧ"),
  (0x10CD, "ⴭ"),
  (0x10FC, "ნ"),
  (0x13F8, "ᏰᏱᏲᏳᏴᏵ"),
  (0x1C80, "вдосттъѣꙋᲊ"),
  (0x1C90, "აბგდევზთიკლმნოპჟრსტუფქღყშჩცძწჭხჯჰჱჲჳჴჵჶჷჸჹჺ��ჽჾჿ"),
  (0x1D2C, "aæb�deǝghijklmn�oȣprtuwaɐɑᴂbdeəɛɜg�kmŋoɔᴖᴗptuᴝɯvᴥβγδφχiruvβγρφχ"),
  (0x1D78, "н"),
  (0x1D9B, "ɒcɕðɜfɟɡɥɨɩɪᵻʝɭᶅʟɱɰɲɳɴɵɸʂʃƫʉʊᴜʋʌzʐʑʒθ"),
  (0x1E00, "ḁ�ḃ�ḅ�ḇ�ḉ�ḋ�ḍ�ḏ�ḑ�ḓ�ḕ�ḗ�ḙ�ḛ�ḝ�ḟ�ḡ�ḣ�ḥ�ḧ�ḩ�ḫ�ḭ�ḯ�ḱ�ḳ�ḵ�ḷ�ḹ�ḻ�ḽ�ḿ�ṁ�ṃ�ṅ�ṇ�ṉ�ṋ�ṍ�ṏ�ṑ�" ++
    "ṓ�ṕ�ṗ�ṙ�ṛ�ṝ�ṟ�ṡ�ṣ�ṥ�ṧ�ṩ�ṫ�ṭ�ṯ�ṱ�ṳ�ṵ�ṷ�ṹ�ṻ�ṽ�ṿ�ẁ�ẃ�ẅ�ẇ�ẉ�ẋ�ẍ�ẏ�ẑ�ẓ�ẕ"),
  (0x1E9B, "ṡ��ß�ạ�ả�ấ�ầ�ẩ�ẫ�ậ�ắ�ằ�ẳ�ẵ�ặ�ẹ�ẻ�ẽ�ế�ề�ể�ễ�ệ�ỉ�ị�ọ�ỏ�ố�ồ�ổ�ỗ�ộ�ớ�ờ�ở�ỡ�ợ�ụ�ủ�ứ�ừ�ử" ++
    "�ữ�ự�ỳ�ỵ�ỷ�ỹ�ỻ�ỽ�ỿ"),
  (0x1F08, "ἀἁἂἃἄἅἆἇ"),
  (0x1F18, "ἐἑἒἓἔἕ"),
  (0x1F28, "ἠἡἢἣἤἥἦἧ"),
  (0x1F38, "ἰἱἲἳἴἵἶἷ"),
  (0x1F48, "ὀὁὂὃὄὅ"),
  (0x1F59, "ὑ�ὓ�ὕ�ὗ"),
  (0x1F68, "ὠὡὢὣὤὥὦὧ�ά�έ�ή�ί�ό�ύ�ώ"),
  (0x1FB8, "ᾰᾱὰά��ι"),
  (0x1FC8, "ὲέὴή"),
  (0x1FD3, "ΐ"),
  (0x1FD8, "ῐῑὶί"),
  (0x1FE3, "ΰ"),
  (0x1FE8, "ῠῡὺύῥ��\x60"),
  (0x1FF8, "ὸόὼώ"),
  (0x2000, "           "),
  (0x2011, "‐"),
  (0x202F, " "),
  (0x205F, " "),
  (0x2070, "0i��456789+−=()n0123456789+−=()�aeoxəhklmnpst"),
  (0x2102, "c"),
  (0x2107, "ɛ��ghhhhħiill�n���pqrrr"),
  (0x2124, "z�ω�z�kåbc�eefⅎmo\u05d0\u05d1\u05d2\u05d3i��πγγπ∑"),
  (0x2145, "ddeij"),
  (0x2160, "i���v"),
  (0x2169, "x��lcdmi���v"),
  (0x2179, "x��lcdm���ↄ"),
  (0x2329, "〈〉"),
  (0x2460, "123456789"),
  (0x24B6, "abcdefghijklmnopqrstuvwxyzabcdefghijklmnopqrstuvwxyz0"),
  (0x2C00, "ⰰⰱⰲⰳⰴⰵⰶⰷⰸⰹⰺⰻⰼⰽⰾⰿⱀⱁⱂⱃⱄⱅⱆⱇⱈⱉⱊⱋⱌⱍⱎⱏⱐⱑⱒⱓⱔⱕⱖⱗⱘⱙⱚⱛⱜⱝⱞⱟ"),
  (0x2C60, "ⱡ�ɫᵽɽ��ⱨ�ⱪ�ⱬ�ɑɱɐɒ�ⱳ��ⱶ"),
  (0x2C7C, "jvȿɀⲁ�ⲃ�ⲅ�ⲇ�ⲉ�ⲋ�ⲍ�ⲏ�ⲑ�ⲓ�ⲕ�ⲗ�ⲙ�ⲛ�ⲝ�ⲟ�ⲡ�ⲣ�ⲥ�ⲧ�ⲩ�ⲫ�ⲭ�ⲯ�ⲱ�ⲳ�ⲵ�ⲷ�ⲹ�ⲻ�ⲽ�ⲿ�ⳁ�ⳃ�ⳅ�ⳇ�ⳉ�ⳋ�ⳍ�" ++
    "ⳏ�ⳑ�ⳓ�ⳕ�ⳗ�ⳙ�ⳛ�ⳝ�ⳟ�ⳡ�ⳣ"),
  (0x2CEB, "ⳬ�ⳮ"),
  (0x2CF2, "ⳳ"),
  (0x2D6F, "ⵡ"),
  (0x2E9F, "母"),
  (0x2EF3, "龟"),
  (0x2F00, "一丨丶丿乙亅二亠人儿入八冂冖冫几凵刀力勹匕匚匸十卜卩厂厶又口囗土士夂夊夕大女子宀寸小尢尸屮山巛工己巾干幺广廴廾弋弓彐彡彳心戈戶手支攴文斗斤方无日曰月木欠止歹殳毋比毛" ++
    "氏气水火爪父爻爿片牙牛犬玄玉瓜瓦甘生用田疋疒癶白皮皿目矛矢石示禸禾穴立竹米糸缶网羊羽老而耒耳聿肉臣自至臼舌舛舟艮色艸虍虫血行衣襾見角言谷豆豕豸貝赤走足身車辛辰辵邑酉" ++
    "釆里金長門阜隶隹雨靑非面革韋韭音頁風飛食首香馬骨高髟鬥鬯鬲鬼魚鳥鹵鹿麥麻黃黍黑黹黽鼎鼓鼠鼻齊齒龍龜龠"),
  (0x3000, " �."),
  (0x3036, "〒�十卄卅"),
  (0x3131, "ᄀᄁᆪᄂᆬᆭᄃᄄᄅᆰᆱᆲᆳᆴᆵᄚᄆᄇᄈᄡᄉᄊᄋᄌᄍᄎᄏᄐᄑ하ᅢᅣᅤᅥᅦᅧᅨᅩᅪᅫᅬᅭᅮᅯᅰᅱᅲᅳᅴᅵ�ᄔᄕᇇᇈᇌᇎᇓᇗᇙᄜᇝᇟᄝᄞᄠᄢᄣᄧᄩᄫᄬᄭᄮᄯᄲᄶᅀᅇᅌᇱ" ++
    "ᇲᅗᅘᅙᆄᆅᆈᆑᆒᆔᆞᆡ���一二三四上中下甲乙丙丁天地人"),
  (0x3244, "問幼文箏"),
  (0x3260, "ᄀᄂᄃᄅᄆᄇᄉᄋᄌᄎᄏᄐᄑᄒ가나다라마바사아자차카타파하��우�一二三四五六七八九十月火水木金土日株有社名特財祝労秘男女適優印注項休写正上中下左右医宗学監企資協夜"),
  (0x32D0, "アイウエオカキクケコサシスセソタチツテトナニヌネノハヒフヘホマミムメモヤユヨラリルレロワヰヱヲ"),
  (0xA640, "ꙁ�ꙃ�ꙅ�ꙇ�ꙉ�ꙋ�ꙍ�ꙏ�ꙑ�ꙓ�ꙕ�ꙗ�ꙙ�ꙛ�ꙝ�ꙟ�ꙡ�ꙣ�ꙥ�ꙧ�ꙩ�ꙫ�ꙭ"),
  (0xA680, "ꚁ�ꚃ�ꚅ�ꚇ�ꚉ�ꚋ�ꚍ�ꚏ�ꚑ�ꚓ�ꚕ�ꚗ�ꚙ�ꚛ�ъь"),
  (0xA722, "ꜣ�ꜥ�ꜧ�ꜩ�ꜫ�ꜭ�ꜯ���ꜳ�ꜵ�ꜷ�ꜹ�ꜻ�ꜽ�ꜿ�ꝁ�ꝃ�ꝅ�ꝇ�ꝉ�ꝋ�ꝍ�ꝏ�ꝑ�ꝓ�ꝕ�ꝗ�ꝙ�ꝛ�ꝝ�ꝟ�ꝡ�ꝣ�ꝥ�ꝧ�ꝩ�ꝫ�ꝭ�ꝯ�ꝯ"),
  (0xA779, "ꝺ�ꝼ�ᵹꝿ�ꞁ�ꞃ�ꞅ�ꞇ"),
  (0xA78B, "ꞌ�ɥ��ꞑ�ꞓ���ꞗ�ꞙ�ꞛ�ꞝ�ꞟ�ꞡ�ꞣ�ꞥ�ꞧ�ꞩ�ɦɜɡɬɪ�ʞʇʝꭓꞵ�ꞷ�ꞹ�ꞻ�ꞽ�ꞿ�ꟁ�ꟃ�ꞔʂᶎꟈ�ꟊ�ɤꟍ�꟏�ꟑ�ꟓ�ꟕ�ꟗ�ꟙ�ꟛ�ƛ"),
  (0xA7F1, "scfqꟶ��ħœ"),
  (0xAB5C, "ꜧꬷɫꭒ"),
  (0xAB69, "ʍ"),
  (0xAB70, "ᎠᎡᎢᎣᎤᎥᎦᎧᎨᎩᎪᎫᎬᎭᎮᎯᎰᎱᎲᎳᎴᎵᎶᎷᎸᎹᎺᎻᎼᎽᎾᎿᏀᏁᏂᏃᏄᏅᏆᏇᏈᏉᏊᏋᏌᏍᏎᏏᏐᏑᏒᏓᏔᏕᏖᏗᏘᏙᏚᏛᏜᏝᏞᏟᏠᏡᏢᏣᏤᏥᏦᏧᏨᏩᏪᏫᏬᏭᏮᏯ"),
  (0xF900, "豈更車賈滑串句龜龜契金喇奈懶癩羅蘿螺裸邏樂洛烙珞落酪駱亂卵欄爛蘭鸞嵐濫藍襤拉臘蠟廊朗浪狼郎來冷勞擄櫓爐盧老蘆虜路露魯鷺碌祿綠菉錄鹿論壟弄籠聾牢磊賂雷壘屢樓淚漏累縷陋" ++
    "勒肋凜凌稜綾菱陵讀拏樂諾丹寧怒率異北磻便復不泌數索參塞省葉說殺辰沈拾若掠略亮兩凉梁糧良諒量勵呂女廬旅濾礪閭驪麗黎力曆歷轢年憐戀撚漣煉璉秊練聯輦蓮連鍊列劣咽烈裂說廉念" ++
    "捻殮簾獵令囹寧嶺怜玲瑩羚聆鈴零靈領例禮醴隸惡了僚寮尿料樂燎療蓼遼龍暈阮劉杻柳流溜琉留硫紐類六戮陸倫崙淪輪律慄栗率隆利吏履易李梨泥理痢罹裏裡里離匿溺吝燐璘藺隣鱗麟林淋" ++
    "臨立笠粒狀炙識什茶刺切度拓糖宅洞暴輻行降見廓兀嗀��塚�晴��凞猪益礼神祥福靖精羽�蘒�諸��逸都���飯飼館鶴郞隷侮僧免勉勤卑喝嘆器塀墨層屮悔慨憎懲敏既暑梅海渚漢" ++
    "煮爫琢碑社祉祈祐祖祝禍禎穀突節練縉繁署者臭艹艹著褐視謁謹賓贈辶逸難響頻恵𤋮舘��並况全侀充冀勇勺喝啕喙嗢塚墳奄奔婢嬨廒廙彩徭惘慎愈憎慠懲戴揄搜摒敖晴朗望杖歹殺流滛滋" ++
    "漢瀞煮瞧爵犯猪瑱甆画瘝瘟益盛直睊着磌窱節类絛練缾者荒華蝹襁覆視調諸請謁諾諭謹變贈輸遲醙鉶陼難靖韛響頋頻鬒龜𢡊𢡄𣏕㮝䀘䀹𥉉𥳐𧻓齃龎"),
  (0xFB20, "\u05e2\u05d0\u05d3\u05d4\u05db\u05dc\u05dd\u05e8\u05ea+"),
  (0xFB50, "\u0671\u0671\u067b\u067b\u067b\u067b\u067e\u067e\u067e\u067e\u0680\u0680\u0680" ++
    "\u0680\u067a\u067a\u067a\u067a\u067f\u067f\u067f\u067f\u0679\u0679\u0679\u0679" ++
    "\u06a4\u06a4\u06a4\u06a4\u06a6\u06a6\u06a6\u06a6\u0684\u0684\u0684\u0684\u0683" ++
    "\u0683\u0683\u0683\u0686\u0686\u0686\u0686\u0687\u0687\u0687\u0687\u068d\u068d" ++
    "\u068c\u068c\u068e\u068e\u0688\u0688\u0698\u0698\u0691\u0691\u06a9\u06a9\u06a9" ++
    "\u06a9\u06af\u06af\u06af\u06af\u06b3\u06b3\u06b3\u06b3\u06b1\u06b1\u06b1\u06b1" ++
    "\u06ba\u06ba\u06bb\u06bb\u06bb\u06bb\u06c0\u06c0\u06c1\u06c1\u06c1\u06c1\u06be" ++
    "\u06be\u06be\u06be\u06d2\u06d2\u06d3\u06d3"),
  (0xFBD3, "\u06ad\u06ad\u06ad\u06ad\u06c7\u06c7\u06c6\u06c6\u06c8\u06c8�\u06cb\u06cb\u06c5" ++
    "\u06c5\u06c9\u06c9\u06d0\u06d0\u06d0\u06d0\u0649\u0649"),
  (0xFBFC, "\u06cc\u06cc\u06cc\u06cc"),
  (0xFE10, ",、�:;!?〖〗"),
  (0xFE31, "—–__()\x7b\x7d〔〕【】《》〈〉「」『』��[]"),
  (0xFE4D, "___,、��;:?!—()\x7b\x7d〔〕#&*+-<>=�\\$%@"),
  (0xFE80, "\u0621\u0622\u0622\u0623\u0623\u0624\u0624\u0625\u0625\u0626\u0626\u0626\u0626" ++
    "\u0627\u0627\u0628\u0628\u0628\u0628\u0629\u0629\u062a\u062a\u062a\u062a\u062b" ++
    "\u062b\u062b\u062b\u062c\u062c\u062c\u062c\u062d\u062d\u062d\u062d\u062e\u062e" ++
    "\u062e\u062e\u062f\u062f\u0630\u0630\u0631\u0631\u0632\u0632\u0633\u0633\u0633" ++
    "\u0633\u0634\u0634\u0634\u0634\u0635\u0635\u0635\u0635\u0636\u0636\u0636\u0636" ++
    "\u0637\u0637\u0637\u0637\u0638\u0638\u0638\u0638\u0639\u0639\u0639\u0639\u063a" ++
    "\u063a\u063a\u063a\u0641\u0641\u0641\u0641\u0642\u0642\u0642\u0642\u0643\u0643" ++
    "\u0643\u0643\u0644\u0644\u0644\u0644\u0645\u0645\u0645\u0645\u0646\u0646\u0646" ++
    "\u0646\u0647\u0647\u0647\u0647\u0648\u0648\u0649\u0649\u064a\u064a\u064a\u064a"),
  (0xFF01, "!\"#$%&'()*+,-./0123456789:;<=>?@abcdefghijklmnopqrstuvwxyz[\\]^_\x60abcdefghijklm" ++
    "nopqrstuvwxyz\x7b|\x7d~⦅⦆.「」、・ヲァィゥェォャュョッーアイウエオカキクケコサシスセソタチツテトナニヌネノハヒフヘホマミムメモヤユヨラリル" ++
    "レロワン\u3099\u309a�ᄀᄁᆪᄂᆬᆭᄃᄄᄅᆰᆱᆲᆳᆴᆵᄚᄆᄇᄈᄡᄉᄊᄋᄌᄍᄎᄏᄐᄑᄒ���ᅡᅢᅣᅤᅥᅦ��ᅧᅨᅩᅪᅫᅬ��ᅭᅮᅯᅰᅱᅲ��ᅳᅴᅵ���¢£" ++
    "¬�¦¥₩�│←↑→↓■○"),
  (0x10400, "𐐨𐐩𐐪𐐫𐐬𐐭𐐮𐐯𐐰𐐱𐐲𐐳𐐴𐐵𐐶𐐷𐐸𐐹𐐺𐐻𐐼𐐽𐐾𐐿𐑀𐑁𐑂𐑃𐑄𐑅𐑆𐑇𐑈𐑉𐑊𐑋𐑌𐑍𐑎𐑏"),
  (0x104B0, "𐓘𐓙𐓚𐓛𐓜𐓝𐓞𐓟𐓠𐓡𐓢𐓣𐓤𐓥𐓦𐓧𐓨𐓩𐓪𐓫𐓬𐓭𐓮𐓯𐓰𐓱𐓲𐓳𐓴𐓵𐓶𐓷𐓸𐓹𐓺𐓻"),
  (0x10570, "𐖗𐖘𐖙𐖚𐖛𐖜𐖝𐖞𐖟𐖠𐖡�𐖣𐖤𐖥𐖦𐖧𐖨𐖩𐖪𐖫𐖬𐖭𐖮𐖯𐖰𐖱�𐖳𐖴𐖵𐖶𐖷𐖸𐖹�𐖻𐖼"),
  (0x10781, "ːˑæʙɓ�ʣꭦʥʤɖɗᶑɘɞʩɤɢɠʛħʜɧʄʪʫɬ𝼄ꞎɮ𝼅ʎ𝼆øɶɷqɺ𝼈ɽɾʀʨʦꭧʧʈⱱ�ʏʡʢʘǀǁǂ𝼊𝼞"),
  (0x10C80, "𐳀𐳁𐳂𐳃𐳄𐳅𐳆𐳇𐳈𐳉𐳊𐳋𐳌𐳍𐳎𐳏𐳐𐳑𐳒𐳓𐳔𐳕𐳖𐳗𐳘𐳙𐳚𐳛𐳜𐳝𐳞𐳟𐳠𐳡𐳢𐳣𐳤𐳥𐳦𐳧𐳨𐳩𐳪𐳫𐳬𐳭𐳮𐳯𐳰𐳱𐳲"),
  (0x10D50, "𐵰𐵱𐵲𐵳𐵴𐵵𐵶𐵷𐵸𐵹𐵺𐵻𐵼𐵽𐵾𐵿𐶀𐶁𐶂𐶃𐶄𐶅"),
  (0x118A0, "𑣀𑣁𑣂𑣃𑣄𑣅𑣆𑣇𑣈𑣉𑣊𑣋𑣌𑣍𑣎𑣏𑣐𑣑𑣒𑣓𑣔𑣕𑣖𑣗𑣘𑣙𑣚𑣛𑣜𑣝𑣞𑣟"),
  (0x16E40, "𖹠𖹡𖹢𖹣𖹤𖹥𖹦𖹧𖹨𖹩𖹪𖹫𖹬𖹭𖹮𖹯𖹰𖹱𖹲𖹳𖹴𖹵𖹶𖹷𖹸𖹹𖹺𖹻𖹼𖹽𖹾𖹿"),
  (0x16EA0, "𖺻𖺼𖺽𖺾𖺿𖻀𖻁𖻂𖻃𖻄𖻅𖻆𖻇𖻈𖻉𖻊𖻋𖻌𖻍𖻎𖻏𖻐𖻑𖻒𖻓"),
  (0x1CCD6, "abcdefghijklmnopqrstuvwxyz0123456789"),
  (0x1D400, "abcdefghijklmnopqrstuvwxyzabcdefghijklmnopqrstuvwxyzabcdefghijklmnopqrstuvwxyzabc" ++
    "defg�ijklmnopqrstuvwxyzabcdefghijklmnopqrstuvwxyzabcdefghijklmnopqrstuvwxyza�cd��" ++
    "g��jk��nopq�stuvwxyzabcd�f�hijklmn�pqrstuvwxyzabcdefghijklmnopqrstuvwxyzabcdefghi" ++
    "jklmnopqrstuvwxyzab�defg��jklmnopq�stuvwxy�abcdefghijklmnopqrstuvwxyzab�defg�ijkl" ++
    "m�o���stuvwxy�abcdefghijklmnopqrstuvwxyzabcdefghijklmnopqrstuvwxyzabcdefghijklmno" ++
    "pqrstuvwxyzabcdefghijklmnopqrstuvwxyzabcdefghijklmnopqrstuvwxyzabcdefghijklmnopqr" ++
    "stuvwxyzabcdefghijklmnopqrstuvwxyzabcdefghijklmnopqrstuvwxyzabcdefghijklmnopqrstu" ++
    "vwxyzabcdefghijklmnopqrstuvwxyzabcdefghijklmnopqrstuvwxyzabcdefghijklmnopqrstuvwx" ++
    "yzabcdefghijklmnopqrstuvwxyzıȷ��αβγδεζηθικλμνξοπρθστυφχψω∇αβγδεζηθικλμνξοπρσστυφχ" ++
    "ψω∂εθκφρπαβγδεζηθικλμνξοπρθστυφχψω∇αβγδεζηθικλμνξοπρσστυφχψω∂εθκφρπαβγδεζηθικλμνξ" ++
    "οπρθστυφχψω∇αβγδεζηθικλμνξοπρσστυφχψω∂εθκφρπαβγδεζηθικλμνξοπρθστυφχψω∇αβγδεζηθικλ" ++
    "μνξοπρσστυφχψω∂εθκφρπαβγδεζηθικλμνξοπρθστυφχψω∇αβγδεζηθικλμνξοπρσστυφχψω∂εθκφρπϝϝ" ++
    "��01234567890123456789012345678901234567890123456789"),
  (0x1E030, "абвгдежзиклмопрстуфхцчшыэюꚉәіјөүӏабвгдежзиклопсуфхцчшъыґіѕџҫꙑұ"),
  (0x1E900, "𞤢𞤣𞤤𞤥𞤦𞤧𞤨𞤩𞤪𞤫𞤬𞤭𞤮𞤯𞤰𞤱𞤲𞤳𞤴𞤵𞤶𞤷𞤸𞤹𞤺𞤻𞤼𞤽𞤾𞤿𞥀𞥁𞥂𞥃"),
  (0x1EE00, "\u0627\u0628\u062c\u062f�\u0648\u0632\u062d\u0637\u064a\u0643\u0644\u0645\u0646" ++
    "\u0633\u0639\u0641\u0635\u0642\u0631\u0634\u062a\u062b\u062e\u0630\u0636\u0638" ++
    "\u063a\u066e\u06ba\u06a1\u066f�\u0628\u062c�\u0647��\u062d�\u064a\u0643\u0644" ++
    "\u0645\u0646\u0633\u0639\u0641\u0635\u0642�\u0634\u062a\u062b\u062e�\u0636�\u063a"),
  (0x1EE42, "\u062c"),
  (0x1EE47, "\u062d�\u064a�\u0644�\u0646\u0633\u0639�\u0635\u0642�\u0634��\u062e�\u0636�\u063a" ++
    "�\u06ba�\u066f�\u0628\u062c�\u0647��\u062d\u0637\u064a\u0643�\u0645\u0646\u0633" ++
    "\u0639\u0641\u0635\u0642�\u0634\u062a\u062b\u062e�\u0636\u0638\u063a\u066e�\u06a1" ++
    "�\u0627\u0628\u062c\u062f\u0647\u0648\u0632\u062d\u0637\u064a�\u0644\u0645\u0646" ++
    "\u0633\u0639\u0641\u0635\u0642\u0631\u0634\u062a\u062b\u062e\u0630\u0636\u0638" ++
    "\u063a"),
  (0x1EEA1, "\u0628\u062c\u062f�\u0648\u0632\u062d\u0637\u064a�\u0644\u0645\u0646\u0633\u0639" ++
    "\u0641\u0635\u0642\u0631\u0634\u062a\u062b\u062e\u0630\u0636\u0638\u063a"),
  (0x1F12B, "cr���abcdefghijklmnopqrstuvwxyz"),
  (0x1F202, "サ"),
  (0x1F210, "手字双デ二多解天交映無料前後再新初終生販声吹演投捕一三遊左中右指走打禁空合満有月申割営配"),
  (0x1F250, "得可"),
  (0x1FBF0, "0123456789"),
  (0x2F800, "丽丸乁𠄢你侮侻倂偺備僧像㒞𠘺免兔兤具𠔜㒹內再𠕋冗冤仌冬况𩇟凵刃㓟刻剆割剷㔕勇勉勤勺包匆北卉卑博即卽卿卿卿𠨬灰及叟𠭣叫叱吆咞吸呈周咢哶唐啓啣善善喙喫喳嗂圖嘆圗噑噴切" ++
    "壮城埴堍型堲報墬𡓤売壷夆多夢奢𡚨𡛪姬娛娧姘婦㛮㛼嬈嬾嬾𡧈寃寘寧寳𡬘寿将当尢㞁屠屮峀岍𡷤嵃𡷦嵮嵫嵼巡巢㠯巽帨帽幩㡢𢆃㡼庰庳庶廊𪎒廾𢌱𢌱舁弢弢㣇𣊸𦇚形彫㣣徚忍志忹悁㤺" ++
    "㤜悔𢛔惇慈慌慎慌慺憎憲憤憯懞懲懶成戛扝抱拔捐𢬌挽拼捨掃揤𢯱搢揅掩㨮摩摾撝摷㩬敏敬𣀊旣書晉㬙暑㬈㫤冒冕最暜肭䏙朗望朡杞杓𣏃㭉柺枅桒梅𣑭梎栟椔㮝楂榣槪檨𣚣櫛㰘次𣢧歔㱎" ++
    "歲殟殺殻𣪍𡴋𣫺汎𣲼沿泍汧洖派海流浩浸涅𣴞洴港湮㴳滋滇𣻑淹潮𣽞𣾎濆瀹瀞瀛㶖灊災灷炭𠔥煅𤉣熜𤎫爨爵牐𤘈犀犕𤜵𤠔獺王㺬玥㺸㺸瑇瑜瑱璅瓊㼛甤𤰶甾𤲒異𢆟瘐𤾡𤾸𥁄㿼䀈直𥃳𥃲𥄙" ++
    "𥄳眞真真睊䀹瞋䁆䂖𥐝硎碌磌䃣𥘦祖𥚚𥛅福秫䄯穀穊穏𥥼𥪧𥪧竮䈂𥮫篆築䈧𥲀糒䊠糨糣紀𥾆絣䌁緇縂繅䌴𦈨𦉇䍙𦋙罺𦌾羕翺者𦓚𦔣聠𦖨聰𣍟䏕育脃䐋脾媵𦞧𦞵𣎓𣎜舁舄辞䑫芑芋芝劳花芳" ++
    "芽苦𦬼若茝荣莭茣莽菧著荓菊菌菜𦰶𦵫𦳕䔫蓱蓳蔖𧏊蕤𦼬䕝䕡𦾱𧃒䕫虐虜虧虩蚩蚈蜎蛢蝹蜨蝫螆䗗蟡蠁䗹衠衣𧙧裗裞䘵裺㒻𧢮𧥦䚾䛇誠諭變豕𧲨貫賁贛起𧼯𠠄跋趼跰𠣞軔輸𨗒𨗭邔郱鄑𨜮" ++
    "鄛鈸鋗鋘鉼鏹鐕𨯺開䦕閷𨵷䧦雃嶲霣𩅅𩈚䩮䩶韠𩐊䪲𩒖頋頋頩𩖶飢䬳餩馧駂駾䯎𩬰鬒鱀鳽䳎䳭鵧𪃎䳸𪄅𪈎𪊑麻䵖黹黾鼅鼏鼖鼻𪘀")]

/-- The characters that stand for several, in runs; a line for each. -/
def spelledRuns : List (Nat × String) := [
  (0xA8, " \u0308"),
  (0xAF, " \u0304"),
  (0xB4, " \u0301"),
  (0xB8, " \u0327"),
  (0xBC, "1⁄4\n1⁄2\n3⁄4"),
  (0x130, "i\u0307"),
  (0x132, "ij\nij"),
  (0x13F, "l·\nl·"),
  (0x149, "ʼn"),
  (0x1C4, "dž\ndž\ndž\nlj\nlj\nlj\nnj\nnj\nnj"),
  (0x1F1, "dz\ndz\ndz"),
  (0x2D8, " \u0306\n \u0307\n \u030a\n \u0328\n \u0303\n \u030b"),
  (0x344, "\u0308\u0301"),
  (0x37A, " ι"),
  (0x384, " \u0301\n \u0308\u0301"),
  (0x587, "եւ"),
  (0x675, "\u0627\u0674\n\u0648\u0674\n\u06c7\u0674\n\u064a\u0674"),
  (0x958, "क\u093c\nख\u093c\nग\u093c\nज\u093c\nड\u093c\nढ\u093c\nफ\u093c\nय\u093c"),
  (0x9DC, "ড\u09bc\nঢ\u09bc"),
  (0x9DF, "য\u09bc"),
  (0xA33, "ਲ\u0a3c"),
  (0xA36, "ਸ\u0a3c"),
  (0xA59, "ਖ\u0a3c\nਗ\u0a3c\nਜ\u0a3c"),
  (0xA5E, "ਫ\u0a3c"),
  (0xB5C, "ଡ\u0b3c\nଢ\u0b3c"),
  (0xE33, "\u0e4dา"),
  (0xEB3, "\u0ecdາ"),
  (0xEDC, "ຫນ\nຫມ"),
  (0xF43, "ག\u0fb7"),
  (0xF4D, "ཌ\u0fb7"),
  (0xF52, "ད\u0fb7"),
  (0xF57, "བ\u0fb7"),
  (0xF5C, "ཛ\u0fb7"),
  (0xF69, "ཀ\u0fb5"),
  (0xF73, "\u0f71\u0f72"),
  (0xF75, "\u0f71\u0f74\n\u0fb2\u0f80\n\u0fb2\u0f71\u0f80\n\u0fb3\u0f80\n\u0fb3\u0f71\u0f80"),
  (0xF81, "\u0f71\u0f80"),
  (0xF93, "\u0f92\u0fb7"),
  (0xF9D, "\u0f9c\u0fb7"),
  (0xFA2, "\u0fa1\u0fb7"),
  (0xFA7, "\u0fa6\u0fb7"),
  (0xFAC, "\u0fab\u0fb7"),
  (0xFB9, "\u0f90\u0fb5"),
  (0x1E9A, "aʾ"),
  (0x1F80, "ἀι\nἁι\nἂι\nἃι\nἄι\nἅι\nἆι\nἇι\nἀι\nἁι\nἂι\nἃι\nἄι\nἅι\nἆι\nἇι\nἠι\nἡι\nἢι\nἣι\nἤι" ++
    "\nἥι\nἦι\nἧι\nἠι\nἡι\nἢι\nἣι\nἤι\nἥι\nἦι\nἧι\nὠι\nὡι\nὢι\nὣι\nὤι\nὥι\nὦι\nὧι\nὠι\n" ++
    "ὡι\nὢι\nὣι\nὤι\nὥι\nὦι\nὧι"),
  (0x1FB2, "ὰι\nαι\nάι"),
  (0x1FB7, "ᾶι"),
  (0x1FBC, "αι\n \u0313"),
  (0x1FBF, " \u0313\n \u0342\n \u0308\u0342\nὴι\nηι\nήι"),
  (0x1FC7, "ῆι"),
  (0x1FCC, "ηι\n \u0313\u0300\n \u0313\u0301\n \u0313\u0342"),
  (0x1FDD, " \u0314\u0300\n \u0314\u0301\n \u0314\u0342"),
  (0x1FED, " \u0308\u0300\n \u0308\u0301"),
  (0x1FF2, "ὼι\nωι\nώι"),
  (0x1FF7, "ῶι"),
  (0x1FFC, "ωι\n \u0301\n \u0314"),
  (0x2017, " \u0333"),
  (0x2033, "′′\n′′′"),
  (0x2036, "‵‵\n‵‵‵"),
  (0x203C, "!!"),
  (0x203E, " \u0305"),
  (0x2047, "??\n?!\n!?"),
  (0x2057, "′′′′"),
  (0x20A8, "rs"),
  (0x2100, "a/c\na/s"),
  (0x2103, "°c"),
  (0x2105, "c/o\nc/u"),
  (0x2109, "°f"),
  (0x2116, "no"),
  (0x2120, "sm\ntel\ntm"),
  (0x213B, "fax"),
  (0x2150, "1⁄7\n1⁄9\n1⁄10\n1⁄3\n2⁄3\n1⁄5\n2⁄5\n3⁄5\n4⁄5\n1⁄6\n5⁄6\n1⁄8\n3⁄8\n5⁄8\n7⁄8\n1⁄"),
  (0x2161, "ii\niii\niv"),
  (0x2165, "vi\nvii\nviii\nix"),
  (0x216A, "xi\nxii"),
  (0x2171, "ii\niii\niv"),
  (0x2175, "vi\nvii\nviii\nix"),
  (0x217A, "xi\nxii"),
  (0x2189, "0⁄3"),
  (0x222C, "∫∫\n∫∫∫"),
  (0x222F, "∮∮\n∮∮∮"),
  (0x2469, "10\n11\n12\n13\n14\n15\n16\n17\n18\n19\n20\n(1)\n(2)\n(3)\n(4)\n(5)\n(6)\n(7)\n(8)" ++
    "\n(9)\n(10)\n(11)\n(12)\n(13)\n(14)\n(15)\n(16)\n(17)\n(18)\n(19)\n(20)"),
  (0x249C, "(a)\n(b)\n(c)\n(d)\n(e)\n(f)\n(g)\n(h)\n(i)\n(j)\n(k)\n(l)\n(m)\n(n)\n(o)\n(p)\n(q" ++
    ")\n(r)\n(s)\n(t)\n(u)\n(v)\n(w)\n(x)\n(y)\n(z)"),
  (0x2A0C, "∫∫∫∫"),
  (0x2A74, "::=\n==\n==="),
  (0x2ADC, "⫝\u0338"),
  (0x309B, " \u3099\n \u309a"),
  (0x309F, "より"),
  (0x30FF, "コト"),
  (0x3200, "(ᄀ)\n(ᄂ)\n(ᄃ)\n(ᄅ)\n(ᄆ)\n(ᄇ)\n(ᄉ)\n(ᄋ)\n(ᄌ)\n(ᄎ)\n(ᄏ)\n(ᄐ)\n(ᄑ)\n(ᄒ)\n(가)\n(나)\n(다" ++
    ")\n(라)\n(마)\n(바)\n(사)\n(아)\n(자)\n(차)\n(카)\n(타)\n(파)\n(하)\n(주)\n(오전)\n(오후)"),
  (0x3220, "(一)\n(二)\n(三)\n(四)\n(五)\n(六)\n(七)\n(八)\n(九)\n(十)\n(月)\n(火)\n(水)\n(木)\n(金)\n(土)\n(日" ++
    ")\n(株)\n(有)\n(社)\n(名)\n(特)\n(財)\n(祝)\n(労)\n(代)\n(呼)\n(学)\n(監)\n(企)\n(資)\n(協)\n(祭)" ++
    "\n(休)\n(自)\n(至)"),
  (0x3250, "pte\n21\n22\n23\n24\n25\n26\n27\n28\n29\n30\n31\n32\n33\n34\n35"),
  (0x327C, "참고\n주의"),
  (0x32B1, "36\n37\n38\n39\n40\n41\n42\n43\n44\n45\n46\n47\n48\n49\n50\n1月\n2月\n3月\n4月\n5月\n6月" ++
    "\n7月\n8月\n9月\n10月\n11月\n12月\nhg\nerg\nev\nltd"),
  (0x32FF, "令和\nアパート\nアルファ\nアンペア\nアール\nイニング\nインチ\nウォン\nエスクード\nエーカー\nオンス\nオーム\nカイリ\nカラット\nカロリー" ++
    "\nガロン\nガンマ\nギガ\nギニー\nキュリー\nギルダー\nキロ\nキログラム\nキロメートル\nキロワット\nグラム\nグラムトン\nクルゼイロ\nクローネ" ++
    "\nケース\nコルナ\nコーポ\nサイクル\nサンチーム\nシリング\nセンチ\nセント\nダース\nデシ\nドル\nトン\nナノ\nノット\nハイツ\nパーセント" ++
    "\nパーツ\nバーレル\nピアストル\nピクル\nピコ\nビル\nファラッド\nフィート\nブッシェル\nフラン\nヘクタール\nペソ\nペニヒ\nヘルツ\nペンス" ++
    "\nページ\nベータ\nポイント\nボルト\nホン\nポンド\nホール\nホーン\nマイクロ\nマイル\nマッハ\nマルク\nマンション\nミクロン\nミリ\nミリ" ++
    "バール\nメガ\nメガトン\nメートル\nヤード\nヤール\nユアン\nリットル\nリラ\nルピー\nルーブル\nレム\nレントゲン\nワット\n0点\n1点\n2" ++
    "点\n3点\n4点\n5点\n6点\n7点\n8点\n9点\n10点\n11点\n12点\n13点\n14点\n15点\n16点\n17点\n18点\n19点\n2" ++
    "0点\n21点\n22点\n23点\n24点\nhpa\nda\nau\nbar\nov\npc\ndm\ndm2\ndm3\niu\n平成\n昭和\n大正\n明治" ++
    "\n株式会社\npa\nna\nμa\nma\nka\nkb\nmb\ngb\ncal\nkcal\npf\nnf\nμf\nμg\nmg\nkg\nhz\nkhz" ++
    "\nmhz\nghz\nthz\nμl\nml\ndl\nkl\nfm\nnm\nμm\nmm\ncm\nkm\nmm2\ncm2\nm2\nkm2\nmm3\nc" ++
    "m3\nm3\nkm3\nm∕s\nm∕s2\npa\nkpa\nmpa\ngpa\nrad\nrad∕s\nrad∕s2\nps\nns\nμs\nms\npv" ++
    "\nnv\nμv\nmv\nkv\nmv\npw\nnw\nμw\nmw\nkw\nmw\nkω\nmω"),
  (0x33C3, "bq\ncc\ncd\nc∕kg"),
  (0x33C8, "db\ngy\nha\nhp\nin\nkk\nkm\nkt\nlm\nln\nlog\nlx\nmb\nmil\nmol\nph"),
  (0x33D9, "ppm\npr\nsr\nsv\nwb\nv∕m\na∕m\n1日\n2日\n3日\n4日\n5日\n6日\n7日\n8日\n9日\n10日\n11日\n12日\n" ++
    "13日\n14日\n15日\n16日\n17日\n18日\n19日\n20日\n21日\n22日\n23日\n24日\n25日\n26日\n27日\n28日\n29" ++
    "日\n30日\n31日\ngal"),
  (0xFB00, "ff\nfi\nfl\nffi\nffl\nst\nst"),
  (0xFB13, "մն\nմե\nմի\nվն\nմխ"),
  (0xFB1D, "\u05d9\u05b4"),
  (0xFB1F, "\u05f2\u05b7"),
  (0xFB2A, "\u05e9\u05c1\n\u05e9\u05c2\n\u05e9\u05bc\u05c1\n\u05e9\u05bc\u05c2\n\u05d0\u05b7\n" ++
    "\u05d0\u05b8\n\u05d0\u05bc\n\u05d1\u05bc\n\u05d2\u05bc\n\u05d3\u05bc\n\u05d4\u05bc" ++
    "\n\u05d5\u05bc\n\u05d6\u05bc"),
  (0xFB38, "\u05d8\u05bc\n\u05d9\u05bc\n\u05da\u05bc\n\u05db\u05bc\n\u05dc\u05bc"),
  (0xFB3E, "\u05de\u05bc"),
  (0xFB40, "\u05e0\u05bc\n\u05e1\u05bc"),
  (0xFB43, "\u05e3\u05bc\n\u05e4\u05bc"),
  (0xFB46, "\u05e6\u05bc\n\u05e7\u05bc\n\u05e8\u05bc\n\u05e9\u05bc\n\u05ea\u05bc\n\u05d5\u05b9" ++
    "\n\u05d1\u05bf\n\u05db\u05bf\n\u05e4\u05bf\n\u05d0\u05dc"),
  (0xFBDD, "\u06c7\u0674"),
  (0xFBEA, "\u0626\u0627\n\u0626\u0627\n\u0626\u06d5\n\u0626\u06d5\n\u0626\u0648\n\u0626\u0648" ++
    "\n\u0626\u06c7\n\u0626\u06c7\n\u0626\u06c6\n\u0626\u06c6\n\u0626\u06c8\n\u0626" ++
    "\u06c8\n\u0626\u06d0\n\u0626\u06d0\n\u0626\u06d0\n\u0626\u0649\n\u0626\u0649\n" ++
    "\u0626\u0649"),
  (0xFC00, "\u0626\u062c\n\u0626\u062d\n\u0626\u0645\n\u0626\u0649\n\u0626\u064a\n\u0628\u062c" ++
    "\n\u0628\u062d\n\u0628\u062e\n\u0628\u0645\n\u0628\u0649\n\u0628\u064a\n\u062a" ++
    "\u062c\n\u062a\u062d\n\u062a\u062e\n\u062a\u0645\n\u062a\u0649\n\u062a\u064a\n" ++
    "\u062b\u062c\n\u062b\u0645\n\u062b\u0649\n\u062b\u064a\n\u062c\u062d\n\u062c\u0645" ++
    "\n\u062d\u062c\n\u062d\u0645\n\u062e\u062c\n\u062e\u062d\n\u062e\u0645\n\u0633" ++
    "\u062c\n\u0633\u062d\n\u0633\u062e\n\u0633\u0645\n\u0635\u062d\n\u0635\u0645\n" ++
    "\u0636\u062c\n\u0636\u062d\n\u0636\u062e\n\u0636\u0645\n\u0637\u062d\n\u0637\u0645" ++
    "\n\u0638\u0645\n\u0639\u062c\n\u0639\u0645\n\u063a\u062c\n\u063a\u0645\n\u0641" ++
    "\u062c\n\u0641\u062d\n\u0641\u062e\n\u0641\u0645\n\u0641\u0649\n\u0641\u064a\n" ++
    "\u0642\u062d\n\u0642\u0645\n\u0642\u0649\n\u0642\u064a\n\u0643\u0627\n\u0643\u062c" ++
    "\n\u0643\u062d\n\u0643\u062e\n\u0643\u0644\n\u0643\u0645\n\u0643\u0649\n\u0643" ++
    "\u064a\n\u0644\u062c\n\u0644\u062d\n\u0644\u062e\n\u0644\u0645\n\u0644\u0649\n" ++
    "\u0644\u064a\n\u0645\u062c\n\u0645\u062d\n\u0645\u062e\n\u0645\u0645\n\u0645\u0649" ++
    "\n\u0645\u064a\n\u0646\u062c\n\u0646\u062d\n\u0646\u062e\n\u0646\u0645\n\u0646" ++
    "\u0649\n\u0646\u064a\n\u0647\u062c\n\u0647\u0645\n\u0647\u0649\n\u0647\u064a\n" ++
    "\u064a\u062c\n\u064a\u062d\n\u064a\u062e\n\u064a\u0645\n\u064a\u0649\n\u064a\u064a" ++
    "\n\u0630\u0670\n\u0631\u0670\n\u0649\u0670\n \u064c\u0651\n \u064d\u0651\n \u064e" ++
    "\u0651\n \u064f\u0651\n \u0650\u0651\n \u0651\u0670\n\u0626\u0631\n\u0626\u0632\n" ++
    "\u0626\u0645\n\u0626\u0646\n\u0626\u0649\n\u0626\u064a\n\u0628\u0631\n\u0628\u0632" ++
    "\n\u0628\u0645\n\u0628\u0646\n\u0628\u0649\n\u0628\u064a\n\u062a\u0631\n\u062a" ++
    "\u0632\n\u062a\u0645\n\u062a\u0646\n\u062a\u0649\n\u062a\u064a\n\u062b\u0631\n" ++
    "\u062b\u0632\n\u062b\u0645\n\u062b\u0646\n\u062b\u0649\n\u062b\u064a\n\u0641\u0649" ++
    "\n\u0641\u064a\n\u0642\u0649\n\u0642\u064a\n\u0643\u0627\n\u0643\u0644\n\u0643" ++
    "\u0645\n\u0643\u0649\n\u0643\u064a\n\u0644\u0645\n\u0644\u0649\n\u0644\u064a\n" ++
    "\u0645\u0627\n\u0645\u0645\n\u0646\u0631\n\u0646\u0632\n\u0646\u0645\n\u0646\u0646" ++
    "\n\u0646\u0649\n\u0646\u064a\n\u0649\u0670\n\u064a\u0631\n\u064a\u0632\n\u064a" ++
    "\u0645\n\u064a\u0646\n\u064a\u0649\n\u064a\u064a\n\u0626\u062c\n\u0626\u062d\n" ++
    "\u0626\u062e\n\u0626\u0645\n\u0626\u0647\n\u0628\u062c\n\u0628\u062d\n\u0628\u062e" ++
    "\n\u0628\u0645\n\u0628\u0647\n\u062a\u062c\n\u062a\u062d\n\u062a\u062e\n\u062a" ++
    "\u0645\n\u062a\u0647\n\u062b\u0645\n\u062c\u062d\n\u062c\u0645\n\u062d\u062c\n" ++
    "\u062d\u0645\n\u062e\u062c\n\u062e\u0645\n\u0633\u062c\n\u0633\u062d\n\u0633\u062e" ++
    "\n\u0633\u0645\n\u0635\u062d\n\u0635\u062e\n\u0635\u0645\n\u0636\u062c\n\u0636" ++
    "\u062d\n\u0636\u062e\n\u0636\u0645\n\u0637\u062d\n\u0638\u0645\n\u0639\u062c\n" ++
    "\u0639\u0645\n\u063a\u062c\n\u063a\u0645\n\u0641\u062c\n\u0641\u062d\n\u0641\u062e" ++
    "\n\u0641\u0645\n\u0642\u062d\n\u0642\u0645\n\u0643\u062c\n\u0643\u062d\n\u0643" ++
    "\u062e\n\u0643\u0644\n\u0643\u0645\n\u0644\u062c\n\u0644\u062d\n\u0644\u062e\n" ++
    "\u0644\u0645\n\u0644\u0647\n\u0645\u062c\n\u0645\u062d\n\u0645\u062e\n\u0645\u0645" ++
    "\n\u0646\u062c\n\u0646\u062d\n\u0646\u062e\n\u0646\u0645\n\u0646\u0647\n\u0647" ++
    "\u062c\n\u0647\u0645\n\u0647\u0670\n\u064a\u062c\n\u064a\u062d\n\u064a\u062e\n" ++
    "\u064a\u0645\n\u064a\u0647\n\u0626\u0645\n\u0626\u0647\n\u0628\u0645\n\u0628\u0647" ++
    "\n\u062a\u0645\n\u062a\u0647\n\u062b\u0645\n\u062b\u0647\n\u0633\u0645\n\u0633" ++
    "\u0647\n\u0634\u0645\n\u0634\u0647\n\u0643\u0644\n\u0643\u0645\n\u0644\u0645\n" ++
    "\u0646\u0645\n\u0646\u0647\n\u064a\u0645\n\u064a\u0647\n\u0640\u064e\u0651\n\u0640" ++
    "\u064f\u0651\n\u0640\u0650\u0651\n\u0637\u0649\n\u0637\u064a\n\u0639\u0649\n\u0639" ++
    "\u064a\n\u063a\u0649\n\u063a\u064a\n\u0633\u0649\n\u0633\u064a\n\u0634\u0649\n" ++
    "\u0634\u064a\n\u062d\u0649\n\u062d\u064a\n\u062c\u0649\n\u062c\u064a\n\u062e\u0649" ++
    "\n\u062e\u064a\n\u0635\u0649\n\u0635\u064a\n\u0636\u0649\n\u0636\u064a\n\u0634" ++
    "\u062c\n\u0634\u062d\n\u0634\u062e\n\u0634\u0645\n\u0634\u0631\n\u0633\u0631\n" ++
    "\u0635\u0631\n\u0636\u0631\n\u0637\u0649\n\u0637\u064a\n\u0639\u0649\n\u0639\u064a" ++
    "\n\u063a\u0649\n\u063a\u064a\n\u0633\u0649\n\u0633\u064a\n\u0634\u0649\n\u0634" ++
    "\u064a\n\u062d\u0649\n\u062d\u064a\n\u062c\u0649\n\u062c\u064a\n\u062e\u0649\n" ++
    "\u062e\u064a\n\u0635\u0649\n\u0635\u064a\n\u0636\u0649\n\u0636\u064a\n\u0634\u062c" ++
    "\n\u0634\u062d\n\u0634\u062e\n\u0634\u0645\n\u0634\u0631\n\u0633\u0631\n\u0635" ++
    "\u0631\n\u0636\u0631\n\u0634\u062c\n\u0634\u062d\n\u0634\u062e\n\u0634\u0645\n" ++
    "\u0633\u0647\n\u0634\u0647\n\u0637\u0645\n\u0633\u062c\n\u0633\u062d\n\u0633\u062e" ++
    "\n\u0634\u062c\n\u0634\u062d\n\u0634\u062e\n\u0637\u0645\n\u0638\u0645\n\u0627" ++
    "\u064b\n\u0627\u064b"),
  (0xFD50, "\u062a\u062c\u0645\n\u062a\u062d\u062c\n\u062a\u062d\u062c\n\u062a\u062d\u0645\n" ++
    "\u062a\u062e\u0645\n\u062a\u0645\u062c\n\u062a\u0645\u062d\n\u062a\u0645\u062e\n" ++
    "\u062c\u0645\u062d\n\u062c\u0645\u062d\n\u062d\u0645\u064a\n\u062d\u0645\u0649\n" ++
    "\u0633\u062d\u062c\n\u0633\u062c\u062d\n\u0633\u062c\u0649\n\u0633\u0645\u062d\n" ++
    "\u0633\u0645\u062d\n\u0633\u0645\u062c\n\u0633\u0645\u0645\n\u0633\u0645\u0645\n" ++
    "\u0635\u062d\u062d\n\u0635\u062d\u062d\n\u0635\u0645\u0645\n\u0634\u062d\u0645\n" ++
    "\u0634\u062d\u0645\n\u0634\u062c\u064a\n\u0634\u0645\u062e\n\u0634\u0645\u062e\n" ++
    "\u0634\u0645\u0645\n\u0634\u0645\u0645\n\u0636\u062d\u0649\n\u0636\u062e\u0645\n" ++
    "\u0636\u062e\u0645\n\u0637\u0645\u062d\n\u0637\u0645\u062d\n\u0637\u0645\u0645\n" ++
    "\u0637\u0645\u064a\n\u0639\u062c\u0645\n\u0639\u0645\u0645\n\u0639\u0645\u0645\n" ++
    "\u0639\u0645\u0649\n\u063a\u0645\u0645\n\u063a\u0645\u064a\n\u063a\u0645\u0649\n" ++
    "\u0641\u062e\u0645\n\u0641\u062e\u0645\n\u0642\u0645\u062d\n\u0642\u0645\u0645\n" ++
    "\u0644\u062d\u0645\n\u0644\u062d\u064a\n\u0644\u062d\u0649\n\u0644\u062c\u062c\n" ++
    "\u0644\u062c\u062c\n\u0644\u062e\u0645\n\u0644\u062e\u0645\n\u0644\u0645\u062d\n" ++
    "\u0644\u0645\u062d\n\u0645\u062d\u062c\n\u0645\u062d\u0645\n\u0645\u062d\u064a\n" ++
    "\u0645\u062c\u062d\n\u0645\u062c\u0645\n\u0645\u062e\u062c\n\u0645\u062e\u0645"),
  (0xFD92, "\u0645\u062c\u062e\n\u0647\u0645\u062c\n\u0647\u0645\u0645\n\u0646\u062d\u0645\n" ++
    "\u0646\u062d\u0649\n\u0646\u062c\u0645\n\u0646\u062c\u0645\n\u0646\u062c\u0649\n" ++
    "\u0646\u0645\u064a\n\u0646\u0645\u0649\n\u064a\u0645\u0645\n\u064a\u0645\u0645\n" ++
    "\u0628\u062e\u064a\n\u062a\u062c\u064a\n\u062a\u062c\u0649\n\u062a\u062e\u064a\n" ++
    "\u062a\u062e\u0649\n\u062a\u0645\u064a\n\u062a\u0645\u0649\n\u062c\u0645\u064a\n" ++
    "\u062c\u062d\u0649\n\u062c\u0645\u0649\n\u0633\u062e\u0649\n\u0635\u062d\u064a\n" ++
    "\u0634\u062d\u064a\n\u0636\u062d\u064a\n\u0644\u062c\u064a\n\u0644\u0645\u064a\n" ++
    "\u064a\u062d\u064a\n\u064a\u062c\u064a\n\u064a\u0645\u064a\n\u0645\u0645\u064a\n" ++
    "\u0642\u0645\u064a\n\u0646\u062d\u064a\n\u0642\u0645\u062d\n\u0644\u062d\u0645\n" ++
    "\u0639\u0645\u064a\n\u0643\u0645\u064a\n\u0646\u062c\u062d\n\u0645\u062e\u064a\n" ++
    "\u0644\u062c\u0645\n\u0643\u0645\u0645\n\u0644\u062c\u0645\n\u0646\u062c\u062d\n" ++
    "\u062c\u062d\u064a\n\u062d\u062c\u064a\n\u0645\u062c\u064a\n\u0641\u0645\u064a\n" ++
    "\u0628\u062d\u064a\n\u0643\u0645\u0645\n\u0639\u062c\u0645\n\u0635\u0645\u0645\n" ++
    "\u0633\u062e\u064a\n\u0646\u062c\u064a"),
  (0xFDF0, "\u0635\u0644\u06d2\n\u0642\u0644\u06d2\n\u0627\u0644\u0644\u0647\n\u0627\u0643" ++
    "\u0628\u0631\n\u0645\u062d\u0645\u062f\n\u0635\u0644\u0639\u0645\n\u0631\u0633" ++
    "\u0648\u0644\n\u0639\u0644\u064a\u0647\n\u0648\u0633\u0644\u0645\n\u0635\u0644" ++
    "\u0649\n\u0635\u0644\u0649 \u0627\u0644\u0644\u0647 \u0639\u0644\u064a\u0647 " ++
    "\u0648\u0633\u0644\u0645\n\u062c\u0644 \u062c\u0644\u0627\u0644\u0647\n\u0631" ++
    "\u06cc\u0627\u0644"),
  (0xFE49, " \u0305\n \u0305\n \u0305\n \u0305"),
  (0xFE70, " \u064b\n\u0640\u064b\n \u064c"),
  (0xFE74, " \u064d"),
  (0xFE76, " \u064e\n\u0640\u064e\n \u064f\n\u0640\u064f\n \u0650\n\u0640\u0650\n \u0651\n" ++
    "\u0640\u0651\n \u0652\n\u0640\u0652"),
  (0xFEF5, "\u0644\u0622\n\u0644\u0622\n\u0644\u0623\n\u0644\u0623\n\u0644\u0625\n\u0644\u0625" ++
    "\n\u0644\u0627\n\u0644\u0627"),
  (0xFFE3, " \u0304"),
  (0x1D15E, "𝅗𝅥\n𝅘𝅥\n𝅘𝅥𝅮\n𝅘𝅥𝅯\n𝅘𝅥𝅰\n𝅘𝅥𝅱\n𝅘𝅥𝅲"),
  (0x1D1BB, "𝆹𝅥\n𝆺𝅥\n𝆹𝅥𝅮\n𝆺𝅥𝅮\n𝆹𝅥𝅯\n𝆺𝅥𝅯"),
  (0x1F101, "0,\n1,\n2,\n3,\n4,\n5,\n6,\n7,\n8,\n9,"),
  (0x1F110, "(a)\n(b)\n(c)\n(d)\n(e)\n(f)\n(g)\n(h)\n(i)\n(j)\n(k)\n(l)\n(m)\n(n)\n(o)\n(p)\n(" ++
    "q)\n(r)\n(s)\n(t)\n(u)\n(v)\n(w)\n(x)\n(y)\n(z)\n〔s〕"),
  (0x1F12D, "cd\nwz"),
  (0x1F14A, "hv\nmv\nsd\nss\nppv\nwc"),
  (0x1F16A, "mc\nmd\nmr"),
  (0x1F190, "dj"),
  (0x1F200, "ほか\nココ"),
  (0x1F240, "〔本〕\n〔三〕\n〔二〕\n〔安〕\n〔点〕\n〔打〕\n〔盗〕\n〔勝〕\n〔敗〕")]

/-- The characters that are left out. -/
def silentRanges : Array (Nat × Nat) := #[
  (0xAD, 0xAD), (0x34F, 0x34F), (0x115F, 0x1160), (0x17B4, 0x17B5), (0x180B, 0x180F),
  (0x200B, 0x200B), (0x2060, 0x2064), (0x206A, 0x206F), (0x3164, 0x3164), (0xFE00, 0xFE0F),
  (0xFEFF, 0xFEFF), (0xFFA0, 0xFFA0), (0x1BCA0, 0x1BCA3), (0x1D173, 0x1D17A), (0xE0100, 0xE01EF)]

/-- The characters that no name holds. Variants and what is left out may lie in the ranges. -/
def refusedRanges : Array (Nat × Nat) := #[
  (0x80, 0x9F), (0x378, 0x379), (0x380, 0x38D), (0x3A2, 0x3A2), (0x530, 0x558), (0x58B, 0x58C),
  (0x590, 0x590), (0x5C8, 0x5CF), (0x5EB, 0x5EE), (0x5F5, 0x605), (0x61C, 0x61C), (0x6DD, 0x6DD),
  (0x70E, 0x70F), (0x74B, 0x74C), (0x7B2, 0x7BF), (0x7FB, 0x7FC), (0x82E, 0x82F), (0x83F, 0x83F),
  (0x85C, 0x85D), (0x85F, 0x85F), (0x86B, 0x86F), (0x890, 0x896), (0x8E2, 0x8E2), (0x984, 0x984),
  (0x98D, 0x98E), (0x991, 0x992), (0x9A9, 0x9A9), (0x9B1, 0x9B1), (0x9B3, 0x9B5), (0x9BA, 0x9BB),
  (0x9C5, 0x9C6), (0x9C9, 0x9CA), (0x9CF, 0x9D6), (0x9D8, 0x9DE), (0x9E4, 0x9E5), (0x9FF, 0xA00),
  (0xA04, 0xA04), (0xA0B, 0xA0E), (0xA11, 0xA12), (0xA29, 0xA29), (0xA31, 0xA31), (0xA34, 0xA34),
  (0xA37, 0xA37), (0xA3A, 0xA3B), (0xA3D, 0xA3D), (0xA43, 0xA46), (0xA49, 0xA4A), (0xA4E, 0xA50),
  (0xA52, 0xA58), (0xA5D, 0xA65), (0xA77, 0xA80), (0xA84, 0xA84), (0xA8E, 0xA8E), (0xA92, 0xA92),
  (0xAA9, 0xAA9), (0xAB1, 0xAB1), (0xAB4, 0xAB4), (0xABA, 0xABB), (0xAC6, 0xAC6), (0xACA, 0xACA),
  (0xACE, 0xACF), (0xAD1, 0xADF), (0xAE4, 0xAE5), (0xAF2, 0xAF8), (0xB00, 0xB00), (0xB04, 0xB04),
  (0xB0D, 0xB0E), (0xB11, 0xB12), (0xB29, 0xB29), (0xB31, 0xB31), (0xB34, 0xB34), (0xB3A, 0xB3B),
  (0xB45, 0xB46), (0xB49, 0xB4A), (0xB4E, 0xB54), (0xB58, 0xB5E), (0xB64, 0xB65), (0xB78, 0xB81),
  (0xB84, 0xB84), (0xB8B, 0xB8D), (0xB91, 0xB91), (0xB96, 0xB98), (0xB9B, 0xB9B), (0xB9D, 0xB9D),
  (0xBA0, 0xBA2), (0xBA5, 0xBA7), (0xBAB, 0xBAD), (0xBBA, 0xBBD), (0xBC3, 0xBC5), (0xBC9, 0xBC9),
  (0xBCE, 0xBCF), (0xBD1, 0xBD6), (0xBD8, 0xBE5), (0xBFB, 0xBFF), (0xC0D, 0xC0D), (0xC11, 0xC11),
  (0xC29, 0xC29), (0xC3A, 0xC3B), (0xC45, 0xC45), (0xC49, 0xC49), (0xC4E, 0xC54), (0xC57, 0xC57),
  (0xC5B, 0xC5B), (0xC5E, 0xC5F), (0xC64, 0xC65), (0xC70, 0xC76), (0xC8D, 0xC8D), (0xC91, 0xC91),
  (0xCA9, 0xCA9), (0xCB4, 0xCB4), (0xCBA, 0xCBB), (0xCC5, 0xCC5), (0xCC9, 0xCC9), (0xCCE, 0xCD4),
  (0xCD7, 0xCDB), (0xCDF, 0xCDF), (0xCE4, 0xCE5), (0xCF0, 0xCF0), (0xCF4, 0xCFF), (0xD0D, 0xD0D),
  (0xD11, 0xD11), (0xD45, 0xD45), (0xD49, 0xD49), (0xD50, 0xD53), (0xD64, 0xD65), (0xD80, 0xD80),
  (0xD84, 0xD84), (0xD97, 0xD99), (0xDB2, 0xDB2), (0xDBC, 0xDBC), (0xDBE, 0xDBF), (0xDC7, 0xDC9),
  (0xDCB, 0xDCE), (0xDD5, 0xDD5), (0xDD7, 0xDD7), (0xDE0, 0xDE5), (0xDF0, 0xDF1), (0xDF5, 0xE00),
  (0xE3B, 0xE3E), (0xE5C, 0xE80), (0xE83, 0xE83), (0xE85, 0xE85), (0xE8B, 0xE8B), (0xEA4, 0xEA4),
  (0xEA6, 0xEA6), (0xEBE, 0xEBF), (0xEC5, 0xEC5), (0xEC7, 0xEC7), (0xECF, 0xECF), (0xEDA, 0xEDB),
  (0xEE0, 0xEFF), (0xF48, 0xF48), (0xF6D, 0xF70), (0xF98, 0xF98), (0xFBD, 0xFBD), (0xFCD, 0xFCD),
  (0xFDB, 0xFFF), (0x10C6, 0x10CF), (0x1249, 0x1249), (0x124E, 0x124F), (0x1257, 0x1257),
  (0x1259, 0x1259), (0x125E, 0x125F), (0x1289, 0x1289), (0x128E, 0x128F), (0x12B1, 0x12B1),
  (0x12B6, 0x12B7), (0x12BF, 0x12BF), (0x12C1, 0x12C1), (0x12C6, 0x12C7), (0x12D7, 0x12D7),
  (0x1311, 0x1311), (0x1316, 0x1317), (0x135B, 0x135C), (0x137D, 0x137F), (0x139A, 0x139F),
  (0x13F6, 0x13FF), (0x1680, 0x1680), (0x169D, 0x169F), (0x16F9, 0x16FF), (0x1716, 0x171E),
  (0x1737, 0x173F), (0x1754, 0x175F), (0x176D, 0x176D), (0x1771, 0x1771), (0x1774, 0x177F),
  (0x17DE, 0x17DF), (0x17EA, 0x17EF), (0x17FA, 0x17FF), (0x181A, 0x181F), (0x1879, 0x187F),
  (0x18AB, 0x18AF), (0x18F6, 0x18FF), (0x191F, 0x191F), (0x192C, 0x192F), (0x193C, 0x193F),
  (0x1941, 0x1943), (0x196E, 0x196F), (0x1975, 0x197F), (0x19AC, 0x19AF), (0x19CA, 0x19CF),
  (0x19DB, 0x19DD), (0x1A1C, 0x1A1D), (0x1A5F, 0x1A5F), (0x1A7D, 0x1A7E), (0x1A8A, 0x1A8F),
  (0x1A9A, 0x1A9F), (0x1AAE, 0x1AAF), (0x1ADE, 0x1ADF), (0x1AEC, 0x1AFF), (0x1B4D, 0x1B4D),
  (0x1BF4, 0x1BFB), (0x1C38, 0x1C3A), (0x1C4A, 0x1C4C), (0x1C8B, 0x1CBC), (0x1CC8, 0x1CCF),
  (0x1CFB, 0x1CFF), (0x1F16, 0x1F1F), (0x1F46, 0x1F4F), (0x1F58, 0x1F5E), (0x1F7E, 0x1F7F),
  (0x1FB5, 0x1FB5), (0x1FC5, 0x1FC5), (0x1FD4, 0x1FD5), (0x1FDC, 0x1FDC), (0x1FF0, 0x1FF5),
  (0x1FFF, 0x1FFF), (0x200E, 0x200F), (0x2024, 0x2026), (0x2028, 0x202E), (0x2065, 0x209F),
  (0x20C2, 0x20CF), (0x20F1, 0x20FF), (0x218C, 0x218F), (0x242A, 0x243F), (0x244B, 0x249B),
  (0x2B74, 0x2B75), (0x2CF4, 0x2CF8), (0x2D26, 0x2D26), (0x2D28, 0x2D2C), (0x2D2E, 0x2D2F),
  (0x2D68, 0x2D6E), (0x2D71, 0x2D7E), (0x2D97, 0x2D9F), (0x2DA7, 0x2DA7), (0x2DAF, 0x2DAF),
  (0x2DB7, 0x2DB7), (0x2DBF, 0x2DBF), (0x2DC7, 0x2DC7), (0x2DCF, 0x2DCF), (0x2DD7, 0x2DD7),
  (0x2DDF, 0x2DDF), (0x2E5E, 0x2E7F), (0x2E9A, 0x2E9A), (0x2EF4, 0x2FFF), (0x3040, 0x3040),
  (0x3097, 0x3098), (0x3100, 0x3104), (0x3130, 0x318F), (0x31E6, 0x31EF), (0x321F, 0x321F),
  (0x33C2, 0x33D8), (0xA48D, 0xA48F), (0xA4C7, 0xA4CF), (0xA62C, 0xA63F), (0xA6F8, 0xA6FF),
  (0xA7DD, 0xA7F0), (0xA82D, 0xA82F), (0xA83A, 0xA83F), (0xA878, 0xA87F), (0xA8C6, 0xA8CD),
  (0xA8DA, 0xA8DF), (0xA954, 0xA95E), (0xA97D, 0xA97F), (0xA9CE, 0xA9CE), (0xA9DA, 0xA9DD),
  (0xA9FF, 0xA9FF), (0xAA37, 0xAA3F), (0xAA4E, 0xAA4F), (0xAA5A, 0xAA5B), (0xAAC3, 0xAADA),
  (0xAAF7, 0xAB00), (0xAB07, 0xAB08), (0xAB0F, 0xAB10), (0xAB17, 0xAB1F), (0xAB27, 0xAB27),
  (0xAB2F, 0xAB2F), (0xAB6C, 0xAB6F), (0xABEE, 0xABEF), (0xABFA, 0xABFF), (0xD7A4, 0xD7AF),
  (0xD7C7, 0xD7CA), (0xD7FC, 0xF8FF), (0xFA6E, 0xFB1C), (0xFB37, 0xFB45), (0xFDD0, 0xFDEF),
  (0xFE12, 0xFE1F), (0xFE30, 0xFE30), (0xFE52, 0xFE6F), (0xFE75, 0xFFFF), (0x1000C, 0x1000C),
  (0x10027, 0x10027), (0x1003B, 0x1003B), (0x1003E, 0x1003E), (0x1004E, 0x1004F),
  (0x1005E, 0x1007F), (0x100FB, 0x100FF), (0x10103, 0x10106), (0x10134, 0x10136),
  (0x1018F, 0x1018F), (0x1019D, 0x1019F), (0x101A1, 0x101CF), (0x101FE, 0x1027F),
  (0x1029D, 0x1029F), (0x102D1, 0x102DF), (0x102FC, 0x102FF), (0x10324, 0x1032C),
  (0x1034B, 0x1034F), (0x1037B, 0x1037F), (0x1039E, 0x1039E), (0x103C4, 0x103C7),
  (0x103D6, 0x103FF), (0x1049E, 0x1049F), (0x104AA, 0x104D7), (0x104FC, 0x104FF),
  (0x10528, 0x1052F), (0x10564, 0x1056E), (0x1057B, 0x10596), (0x105A2, 0x105A2),
  (0x105B2, 0x105B2), (0x105BA, 0x105BA), (0x105BD, 0x105BF), (0x105F4, 0x105FF),
  (0x10737, 0x1073F), (0x10756, 0x1075F), (0x10768, 0x1077F), (0x10786, 0x107FF),
  (0x10806, 0x10807), (0x10809, 0x10809), (0x10836, 0x10836), (0x10839, 0x1083B),
  (0x1083D, 0x1083E), (0x10856, 0x10856), (0x1089F, 0x108A6), (0x108B0, 0x108DF),
  (0x108F3, 0x108F3), (0x108F6, 0x108FA), (0x1091C, 0x1091E), (0x1093A, 0x1093E),
  (0x1095A, 0x1097F), (0x109B8, 0x109BB), (0x109D0, 0x109D1), (0x10A04, 0x10A04),
  (0x10A07, 0x10A0B), (0x10A14, 0x10A14), (0x10A18, 0x10A18), (0x10A36, 0x10A37),
  (0x10A3B, 0x10A3E), (0x10A49, 0x10A4F), (0x10A59, 0x10A5F), (0x10AA0, 0x10ABF),
  (0x10AE7, 0x10AEA), (0x10AF7, 0x10AFF), (0x10B36, 0x10B38), (0x10B56, 0x10B57),
  (0x10B73, 0x10B77), (0x10B92, 0x10B98), (0x10B9D, 0x10BA8), (0x10BB0, 0x10BFF),
  (0x10C49, 0x10CBF), (0x10CF3, 0x10CF9), (0x10D28, 0x10D2F), (0x10D3A, 0x10D3F),
  (0x10D66, 0x10D68), (0x10D86, 0x10D8D), (0x10D90, 0x10E5F), (0x10E7F, 0x10E7F),
  (0x10EAA, 0x10EAA), (0x10EAE, 0x10EAF), (0x10EB2, 0x10EC1), (0x10EC8, 0x10ECF),
  (0x10ED9, 0x10EF9), (0x10F28, 0x10F2F), (0x10F5A, 0x10F6F), (0x10F8A, 0x10FAF),
  (0x10FCC, 0x10FDF), (0x10FF7, 0x10FFF), (0x1104E, 0x11051), (0x11076, 0x1107E),
  (0x110BD, 0x110BD), (0x110C3, 0x110CF), (0x110E9, 0x110EF), (0x110FA, 0x110FF),
  (0x11135, 0x11135), (0x11148, 0x1114F), (0x11177, 0x1117F), (0x111E0, 0x111E0),
  (0x111F5, 0x111FF), (0x11212, 0x11212), (0x11242, 0x1127F), (0x11287, 0x11287),
  (0x11289, 0x11289), (0x1128E, 0x1128E), (0x1129E, 0x1129E), (0x112AA, 0x112AF),
  (0x112EB, 0x112EF), (0x112FA, 0x112FF), (0x11304, 0x11304), (0x1130D, 0x1130E),
  (0x11311, 0x11312), (0x11329, 0x11329), (0x11331, 0x11331), (0x11334, 0x11334),
  (0x1133A, 0x1133A), (0x11345, 0x11346), (0x11349, 0x1134A), (0x1134E, 0x1134F),
  (0x11351, 0x11356), (0x11358, 0x1135C), (0x11364, 0x11365), (0x1136D, 0x1136F),
  (0x11375, 0x1137F), (0x1138A, 0x1138A), (0x1138C, 0x1138D), (0x1138F, 0x1138F),
  (0x113B6, 0x113B6), (0x113C1, 0x113C1), (0x113C3, 0x113C4), (0x113C6, 0x113C6),
  (0x113CB, 0x113CB), (0x113D6, 0x113D6), (0x113D9, 0x113E0), (0x113E3, 0x113FF),
  (0x1145C, 0x1145C), (0x11462, 0x1147F), (0x114C8, 0x114CF), (0x114DA, 0x1157F),
  (0x115B6, 0x115B7), (0x115DE, 0x115FF), (0x11645, 0x1164F), (0x1165A, 0x1165F),
  (0x1166D, 0x1167F), (0x116BA, 0x116BF), (0x116CA, 0x116CF), (0x116E4, 0x116FF),
  (0x1171B, 0x1171C), (0x1172C, 0x1172F), (0x11747, 0x117FF), (0x1183C, 0x1189F),
  (0x118F3, 0x118FE), (0x11907, 0x11908), (0x1190A, 0x1190B), (0x11914, 0x11914),
  (0x11917, 0x11917), (0x11936, 0x11936), (0x11939, 0x1193A), (0x11947, 0x1194F),
  (0x1195A, 0x1199F), (0x119A8, 0x119A9), (0x119D8, 0x119D9), (0x119E5, 0x119FF),
  (0x11A48, 0x11A4F), (0x11AA3, 0x11AAF), (0x11AF9, 0x11AFF), (0x11B0A, 0x11B5F),
  (0x11B68, 0x11BBF), (0x11BE2, 0x11BEF), (0x11BFA, 0x11BFF), (0x11C09, 0x11C09),
  (0x11C37, 0x11C37), (0x11C46, 0x11C4F), (0x11C6D, 0x11C6F), (0x11C90, 0x11C91),
  (0x11CA8, 0x11CA8), (0x11CB7, 0x11CFF), (0x11D07, 0x11D07), (0x11D0A, 0x11D0A),
  (0x11D37, 0x11D39), (0x11D3B, 0x11D3B), (0x11D3E, 0x11D3E), (0x11D48, 0x11D4F),
  (0x11D5A, 0x11D5F), (0x11D66, 0x11D66), (0x11D69, 0x11D69), (0x11D8F, 0x11D8F),
  (0x11D92, 0x11D92), (0x11D99, 0x11D9F), (0x11DAA, 0x11DAF), (0x11DDC, 0x11DDF),
  (0x11DEA, 0x11EDF), (0x11EF9, 0x11EFF), (0x11F11, 0x11F11), (0x11F3B, 0x11F3D),
  (0x11F5B, 0x11FAF), (0x11FB1, 0x11FBF), (0x11FF2, 0x11FFE), (0x1239A, 0x123FF),
  (0x1246F, 0x1246F), (0x12475, 0x1247F), (0x12544, 0x12F8F), (0x12FF3, 0x12FFF),
  (0x13430, 0x1343F), (0x13456, 0x1345F), (0x143FB, 0x143FF), (0x14647, 0x160FF),
  (0x1613A, 0x167FF), (0x16A39, 0x16A3F), (0x16A5F, 0x16A5F), (0x16A6A, 0x16A6D),
  (0x16ABF, 0x16ABF), (0x16ACA, 0x16ACF), (0x16AEE, 0x16AEF), (0x16AF6, 0x16AFF),
  (0x16B46, 0x16B4F), (0x16B5A, 0x16B5A), (0x16B62, 0x16B62), (0x16B78, 0x16B7C),
  (0x16B90, 0x16D3F), (0x16D7A, 0x16E3F), (0x16E9B, 0x16EBA), (0x16ED4, 0x16EFF),
  (0x16F4B, 0x16F4E), (0x16F88, 0x16F8E), (0x16FA0, 0x16FDF), (0x16FE5, 0x16FEF),
  (0x16FF7, 0x16FFF), (0x18CD6, 0x18CFE), (0x18D1F, 0x18D7F), (0x18DF3, 0x1AFEF),
  (0x1AFF4, 0x1AFF4), (0x1AFFC, 0x1AFFC), (0x1AFFF, 0x1AFFF), (0x1B123, 0x1B131),
  (0x1B133, 0x1B14F), (0x1B153, 0x1B154), (0x1B156, 0x1B163), (0x1B168, 0x1B16F),
  (0x1B2FC, 0x1BBFF), (0x1BC6B, 0x1BC6F), (0x1BC7D, 0x1BC7F), (0x1BC89, 0x1BC8F),
  (0x1BC9A, 0x1BC9B), (0x1BCA4, 0x1CBFF), (0x1CCFD, 0x1CCFF), (0x1CEB4, 0x1CEB9),
  (0x1CED1, 0x1CEDF), (0x1CEF1, 0x1CEFF), (0x1CF2E, 0x1CF2F), (0x1CF47, 0x1CF4F),
  (0x1CFC4, 0x1CFFF), (0x1D0F6, 0x1D0FF), (0x1D127, 0x1D128), (0x1D1EB, 0x1D1FF),
  (0x1D246, 0x1D2BF), (0x1D2D4, 0x1D2DF), (0x1D2F4, 0x1D2FF), (0x1D357, 0x1D35F),
  (0x1D379, 0x1D7CD), (0x1DA8C, 0x1DA9A), (0x1DAA0, 0x1DAA0), (0x1DAB0, 0x1DEFF),
  (0x1DF1F, 0x1DF24), (0x1DF2B, 0x1DFFF), (0x1E007, 0x1E007), (0x1E019, 0x1E01A),
  (0x1E022, 0x1E022), (0x1E025, 0x1E025), (0x1E02B, 0x1E08E), (0x1E090, 0x1E0FF),
  (0x1E12D, 0x1E12F), (0x1E13E, 0x1E13F), (0x1E14A, 0x1E14D), (0x1E150, 0x1E28F),
  (0x1E2AF, 0x1E2BF), (0x1E2FA, 0x1E2FE), (0x1E300, 0x1E4CF), (0x1E4FA, 0x1E5CF),
  (0x1E5FB, 0x1E5FE), (0x1E600, 0x1E6BF), (0x1E6DF, 0x1E6DF), (0x1E6F6, 0x1E6FD),
  (0x1E700, 0x1E7DF), (0x1E7E7, 0x1E7E7), (0x1E7EC, 0x1E7EC), (0x1E7EF, 0x1E7EF),
  (0x1E7FF, 0x1E7FF), (0x1E8C5, 0x1E8C6), (0x1E8D7, 0x1E8FF), (0x1E94C, 0x1E94F),
  (0x1E95A, 0x1E95D), (0x1E960, 0x1EC70), (0x1ECB5, 0x1ED00), (0x1ED3E, 0x1EEEF),
  (0x1EEF2, 0x1EFFF), (0x1F02C, 0x1F02F), (0x1F094, 0x1F09F), (0x1F0AF, 0x1F0B0),
  (0x1F0C0, 0x1F0C0), (0x1F0D0, 0x1F0D0), (0x1F0F6, 0x1F100), (0x1F1AE, 0x1F1E5),
  (0x1F203, 0x1F25F), (0x1F266, 0x1F2FF), (0x1F6D9, 0x1F6DB), (0x1F6ED, 0x1F6EF),
  (0x1F6FD, 0x1F6FF), (0x1F7DA, 0x1F7DF), (0x1F7EC, 0x1F7EF), (0x1F7F1, 0x1F7FF),
  (0x1F80C, 0x1F80F), (0x1F848, 0x1F84F), (0x1F85A, 0x1F85F), (0x1F888, 0x1F88F),
  (0x1F8AE, 0x1F8AF), (0x1F8BC, 0x1F8BF), (0x1F8C2, 0x1F8CF), (0x1F8D9, 0x1F8FF),
  (0x1FA58, 0x1FA5F), (0x1FA6E, 0x1FA6F), (0x1FA7D, 0x1FA7F), (0x1FA8B, 0x1FA8D),
  (0x1FAC7, 0x1FAC7), (0x1FAC9, 0x1FACC), (0x1FADD, 0x1FADE), (0x1FAEB, 0x1FAEE),
  (0x1FAF9, 0x1FAFF), (0x1FB93, 0x1FB93), (0x1FBFB, 0x1FFFF), (0x2A6E0, 0x2A6FF),
  (0x2B81E, 0x2B81F), (0x2CEAE, 0x2CEAF), (0x2EBE1, 0x2EBEF), (0x2EE5E, 0x2FFFF),
  (0x3134B, 0x3134F), (0x3347A, 0x10FFFF)]

end MachiningViewer.Http.Domain
